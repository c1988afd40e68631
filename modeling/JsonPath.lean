import JsonPath.Main
import JsonPath.Proofs.Calendar.DateText
import JsonPath.Proofs.Calendar.Templates
import JsonPath.Proofs.Evaluation.ArithmeticErrors
import JsonPath.Proofs.Evaluation.BoundReferences
import JsonPath.Proofs.Evaluation.Calls
import JsonPath.Proofs.Evaluation.Connectives
import JsonPath.Proofs.Evaluation.Cutting
import JsonPath.Proofs.Evaluation.Defaults
import JsonPath.Proofs.Evaluation.Dependence
import JsonPath.Proofs.Evaluation.Equality
import JsonPath.Proofs.Evaluation.FilterChains
import JsonPath.Proofs.Evaluation.IntegerArithmetic
import JsonPath.Proofs.Evaluation.LaxErrors
import JsonPath.Proofs.Evaluation.Mirroring
import JsonPath.Proofs.Evaluation.ModeExtension
import JsonPath.Proofs.Evaluation.Records
import JsonPath.Proofs.Evaluation.RootFilter
import JsonPath.Proofs.Evaluation.Safety
import JsonPath.Proofs.Evaluation.Scoping
import JsonPath.Proofs.Evaluation.Subscripting
import JsonPath.Proofs.Json.Keys
import JsonPath.Proofs.Json.RoundTrip
import JsonPath.Proofs.Parsing.Exactness
import JsonPath.Proofs.Parsing.JsonText
import JsonPath.Proofs.Parsing.Layout
import JsonPath.Proofs.Parsing.Parallel
import JsonPath.Proofs.Parsing.Scalars
import JsonPath.Proofs.Parsing.Scanning
import JsonPath.Proofs.Parsing.StringLiterals
import JsonPath.Proofs.Parsing.Termination
import JsonPath.Proofs.Parsing.Tiling
import JsonPath.Proofs.Parsing.UnexpectedTokens
import JsonPath.Proofs.Pattern.Literal
import JsonPath.Proofs.Session.Isolation

import Conformance.Contract.Reading
import Conformance.Contract.Writing
import Conformance.Json.Writer
import Conformance.Workspace.Shared
import Conformance.Workspace.Verifying
import Conformance.Proofs.Workspace.Individual
import Conformance.Proofs.Plan
import Conformance.Proofs.Verification.Outline
import Conformance.Proofs.Offside.Node
import Conformance.Proofs.Rule.Exposure
import Conformance.Proofs.Offside.Exposure
import Conformance.Proofs.Script.Exposure
import Conformance.Proofs.Rule.FailureMode
import Conformance.Proofs.Rule.Memory
import Conformance.Proofs.Verification.Sinks
import Conformance.Proofs.Workspace.Reset
import Conformance.Proofs.Workspace.Accounts
import Conformance.Proofs.Call.Callee
import Conformance.Proofs.Contract.RoundTrip
import Conformance.Proofs.Verification.Dispatch
import Conformance.Proofs.Contract.LongForm
import Conformance.Proofs.Report
import Conformance.Proofs.Script.Outline
import Conformance.Proofs.Call.Place
import Conformance.Proofs.Call.Leak
import Conformance.Proofs.Call.Safe
import Conformance.Proofs.Offside.Argument
import Conformance.Proofs.Script.Argument
import Conformance.Proofs.Verification.Argument
import Conformance.Proofs.Call.SafeCallee
import Conformance.Proofs.Verification.SafeUse
import Conformance.Proofs.Text.DottedName
import Conformance.Proofs.Text.Keyword
import Conformance.Proofs.Clause.Exposure
import Conformance.Proofs.Clause.Subject
import Conformance.Proofs.Rule.Input
import Conformance.Proofs.Settings.Reading
import Conformance.Proofs.Settings.Document
import Conformance.Proofs.Settings.Loading
import Conformance.Proofs.Path.Climbing
import Conformance.Proofs.Path.Sources
import Conformance.Proofs.Call.Balanced
import Conformance.Proofs.Offside.Scanner
import Conformance.Proofs.Script.Gap
import Conformance.Proofs.Source.Directive

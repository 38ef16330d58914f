import CallBoundary.BoundFunction
import CallBoundary.Command
import CallBoundary.Decimal.Layout
import CallBoundary.Decimal.Shortest
import CallBoundary.Declaration.Basic
import CallBoundary.Declaration.Build
import CallBoundary.Declaration.Format
import CallBoundary.Diagnostic.Basic
import CallBoundary.Diagnostic.Format
import CallBoundary.Diagnostic.Report
import CallBoundary.Element
import CallBoundary.Failure
import CallBoundary.Json.Decode
import CallBoundary.Json.Encode
import CallBoundary.Json.Fault
import CallBoundary.Json.Format
import CallBoundary.Json.Reader
import CallBoundary.Json.Value
import CallBoundary.Json.Writer
import CallBoundary.Links
import CallBoundary.Listing
import CallBoundary.Main
import CallBoundary.Modifier.Basic
import CallBoundary.Modifier.Format
import CallBoundary.Modifier.Set
import CallBoundary.NativeType.Basic
import CallBoundary.NativeType.Format
import CallBoundary.NativeType.Mapping
import CallBoundary.Newcomers
import CallBoundary.Parameter.Argument
import CallBoundary.Parameter.Basic
import CallBoundary.Proofs.Alignment
import CallBoundary.Proofs.ArgumentRefusal
import CallBoundary.Proofs.Arguments
import CallBoundary.Proofs.Attachment
import CallBoundary.Proofs.BaseOverload
import CallBoundary.Proofs.Building
import CallBoundary.Proofs.CallRefusal
import CallBoundary.Proofs.CheckReport
import CallBoundary.Proofs.Circumstances
import CallBoundary.Proofs.Commands
import CallBoundary.Proofs.DeclarationText
import CallBoundary.Proofs.DeclaredTypes
import CallBoundary.Proofs.Documentation
import CallBoundary.Proofs.Documents
import CallBoundary.Proofs.Findings
import CallBoundary.Proofs.FirstFault
import CallBoundary.Proofs.Headers
import CallBoundary.Proofs.LinkText
import CallBoundary.Proofs.Listing
import CallBoundary.Proofs.Lookup
import CallBoundary.Proofs.Modifiers
import CallBoundary.Proofs.NullSafety
import CallBoundary.Proofs.OnceAttached
import CallBoundary.Proofs.Passage
import CallBoundary.Proofs.Passthrough
import CallBoundary.Proofs.Reachable
import CallBoundary.Proofs.Records
import CallBoundary.Proofs.Reporting
import CallBoundary.Proofs.Resolution
import CallBoundary.Proofs.Rewriting
import CallBoundary.Proofs.RoundTrip
import CallBoundary.Proofs.Signature
import CallBoundary.Proofs.Spelling
import CallBoundary.Proofs.Stripping
import CallBoundary.Proofs.Subjects
import CallBoundary.Proofs.Tables
import CallBoundary.Proofs.Traversal
import CallBoundary.Proofs.TypeKeys
import CallBoundary.Proofs.Words
import CallBoundary.Proofs.Workshop
import CallBoundary.Refusal
import CallBoundary.Request
import CallBoundary.Table
import CallBoundary.Text

import NestLint.Source.Parse
import NestLint.Sheet.Print
import NestLint.Sheet.Walk
import NestLint.Json.Write
import NestLint.Json.Read
import NestLint.Nesting.Check
import NestLint.Lint.Linter
import NestLint.Report.Document
import NestLint.Proofs.Source.RoundTrip
import NestLint.Proofs.Nesting.Conservation
import NestLint.Proofs.Nesting.Meaning
import NestLint.Proofs.Nesting.FixedPoint
import NestLint.Proofs.Nesting.Links
import NestLint.Proofs.Nesting.Termination
import NestLint.Proofs.SelectorList
import NestLint.Proofs.Nesting.Resolving
import NestLint.Proofs.Source.Locality
import NestLint.Proofs.Source.Reading
import NestLint.Proofs.Source.Tidy
import NestLint.Proofs.Source.Parsed
import NestLint.Proofs.Nesting.Reparse
import NestLint.Proofs.Nesting.Reporting
import NestLint.Proofs.Nesting.Recording
import NestLint.Proofs.Sheet.Pending
import NestLint.Proofs.Nesting.Parting
import NestLint.Proofs.Nesting.Shifting
import NestLint.Proofs.Source.Spans
import NestLint.Proofs.Nesting.Sweeping
import NestLint.Proofs.Sheet.Tiling
import NestLint.Proofs.Nesting.Completeness
import NestLint.Proofs.Lint.Runs
import NestLint.Proofs.Sheet.Rejoining
import NestLint.Proofs.Sheet.Scripted
import NestLint.Proofs.Sheet.Pruning
import NestLint.Proofs.Sheet.Appending
import NestLint.Proofs.Source.Prefixes
import NestLint.Proofs.Source.Blame
import NestLint.Proofs.Source.Relocation
import NestLint.Proofs.Source.Joining
import NestLint.Proofs.Source.LastSemicolon
import NestLint.Proofs.Text.Bytes
import NestLint.Proofs.Source.Bytewise
import NestLint.Proofs.Source.Cuts
import NestLint.Proofs.Source.Cursors
import NestLint.Proofs.Source.Turns
import NestLint.Proofs.Source.Totality
import NestLint.Proofs.Nesting.Orders
import NestLint.Proofs.Nesting.Changes
import NestLint.Proofs.Report.Places
import NestLint.Proofs.Sheet.Reread
import NestLint.Proofs.SelectorList.Composition
import NestLint.Proofs.Nesting.Strictness
import NestLint.Proofs.Sheet.Copying
import NestLint.Proofs.Lint.Settings

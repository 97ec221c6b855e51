import ServiceDocs.Main
import ServiceDocs.Proofs.CommandLine.Outcome
import ServiceDocs.Proofs.CommandLine.Settings
import ServiceDocs.Proofs.Document.Failures
import ServiceDocs.Proofs.Extraction.Bindings
import ServiceDocs.Proofs.Extraction.Rearranged
import ServiceDocs.Proofs.Extraction.Stopped
import ServiceDocs.Proofs.Markup.Tags
import ServiceDocs.Proofs.Rendering.Anchors
import ServiceDocs.Proofs.Rendering.BlankLines
import ServiceDocs.Proofs.Rendering.BrokenExamples
import ServiceDocs.Proofs.Rendering.Commands
import ServiceDocs.Proofs.Rendering.DocNesting
import ServiceDocs.Proofs.Rendering.Hints
import ServiceDocs.Proofs.Rendering.NormalizedJson
import ServiceDocs.Proofs.Rendering.Page
import ServiceDocs.Proofs.Rendering.PageFile
import ServiceDocs.Proofs.Rendering.PathTemplate
import ServiceDocs.Proofs.Rendering.Reachability
import ServiceDocs.Proofs.Rendering.Slashes
import ServiceDocs.Proofs.Resolution.LiveDescent
import ServiceDocs.Proofs.Resolution.Nested
import ServiceDocs.Proofs.Scan.Origins
import ServiceDocs.Proofs.Separate
import ServiceDocs.Rendering.Datum

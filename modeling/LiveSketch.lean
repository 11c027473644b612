import LiveSketch.Main
import LiveSketch.Proofs.Analysis.Undefined
import LiveSketch.Proofs.Compile.Account
import LiveSketch.Proofs.Compile.Cancellation
import LiveSketch.Proofs.Compile.Located
import LiveSketch.Proofs.Compile.Origin
import LiveSketch.Proofs.Compile.Verdict
import LiveSketch.Proofs.Compile.Widening
import LiveSketch.Proofs.Diagnostic.Range
import LiveSketch.Proofs.Diagnostic.Resort
import LiveSketch.Proofs.Editor.Position
import LiveSketch.Proofs.Entry.Arity
import LiveSketch.Proofs.Entry.Attribution
import LiveSketch.Proofs.Entry.Replay
import LiveSketch.Proofs.Entry.Requests
import LiveSketch.Proofs.Imports.Agreement
import LiveSketch.Proofs.Session.Coalescing
import LiveSketch.Proofs.Session.Failure
import LiveSketch.Proofs.Session.Offer
import LiveSketch.Proofs.Session.Picture
import LiveSketch.Proofs.Session.Report
import LiveSketch.Proofs.Session.Status
import LiveSketch.Proofs.Session.Supersession
import LiveSketch.Proofs.Studio.Refusal
import LiveSketch.Proofs.Studio.Separation
import LiveSketch.Proofs.Text.Breaks
import LiveSketch.Proofs.Text.Decoding
import LiveSketch.Proofs.Text.Partition

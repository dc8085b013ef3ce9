import ByteGrammar.Binary64
import ByteGrammar.Blueprint.Basic
import ByteGrammar.Blueprint.Bits
import ByteGrammar.Blueprint.Collection
import ByteGrammar.Blueprint.Quantity
import ByteGrammar.Blueprint.Value
import ByteGrammar.Buffer
import ByteGrammar.CommandLine.Note
import ByteGrammar.CommandLine.Request
import ByteGrammar.CommandLine.Run
import ByteGrammar.CommandLine.Words
import ByteGrammar.Cursor
import ByteGrammar.Document.Basic
import ByteGrammar.Document.Chart
import ByteGrammar.Document.Encoding
import ByteGrammar.Document.Format
import ByteGrammar.Document.Reading
import ByteGrammar.Document.Report
import ByteGrammar.Fault
import ByteGrammar.Files.Error
import ByteGrammar.Files.Path
import ByteGrammar.Files.Tree
import ByteGrammar.Index
import ByteGrammar.Main
import ByteGrammar.Outcome
import ByteGrammar.Parser.Basic
import ByteGrammar.Parser.Bytes
import ByteGrammar.Parser.Probes
import ByteGrammar.Parser.Repetition
import ByteGrammar.Segment.Basic
import ByteGrammar.Segment.Grammar
import ByteGrammar.Session
import ByteGrammar.Text.Blank
import ByteGrammar.Text.Digit
import ByteGrammar.Text.Hexadecimal
import ByteGrammar.Text.Numeral
import ByteGrammar.Text.Outline
import ByteGrammar.Text.Printable
import ByteGrammar.Text.Quoted
import ByteGrammar.Validation.Checked
import ByteGrammar.Validation.Datum
import ByteGrammar.Validation.Format
import ByteGrammar.Validation.Issue
import ByteGrammar.Validation.Models
import ByteGrammar.Word
import ByteGrammar.Proofs.Forward
import ByteGrammar.Proofs.Recognition
import ByteGrammar.Proofs.Rejection
import ByteGrammar.Proofs.StoredForm
import ByteGrammar.Proofs.SegmentGrammar
import ByteGrammar.Proofs.SegmentRejection
import ByteGrammar.Proofs.DocumentGrammar
import ByteGrammar.Proofs.DocumentRejection
import ByteGrammar.Proofs.RequiredEnd
import ByteGrammar.Proofs.Reading
import ByteGrammar.Proofs.Continuation
import ByteGrammar.Proofs.RoundTrip
import ByteGrammar.Proofs.Composition
import ByteGrammar.Proofs.Locality
import ByteGrammar.Proofs.Progress
import ByteGrammar.Proofs.UnreadBytes
import ByteGrammar.Proofs.Attempts
import ByteGrammar.Proofs.Reporting
import ByteGrammar.Proofs.Editing
import ByteGrammar.Proofs.FileChange
import ByteGrammar.Proofs.Answering
import ByteGrammar.Proofs.SequenceLaws
import ByteGrammar.Proofs.ChoiceLaws
import ByteGrammar.Proofs.Legibility
import ByteGrammar.Proofs.ReportContents
import ByteGrammar.Proofs.Confinement
import ByteGrammar.Proofs.Provenance
import ByteGrammar.Proofs.CountedRepetition
import ByteGrammar.Proofs.GreedyRepetition
import ByteGrammar.Proofs.RepetitionAgreement
import ByteGrammar.Proofs.SegmentComplements
import ByteGrammar.Proofs.FixedWords
import ByteGrammar.Proofs.SegmentRuns
import ByteGrammar.Proofs.WritingConditions

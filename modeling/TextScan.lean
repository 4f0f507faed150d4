import TextScan.Text
import TextScan.Text.Printable
import TextScan.Text.Quoted
import TextScan.CharUnit
import TextScan.CharUnit.Encoding
import TextScan.Scan
import TextScan.Buffer.Items
import TextScan.Buffer.Range
import TextScan.Buffer
import TextScan.Location
import TextScan.Number
import TextScan.Stream
import TextScan.Stream.Advance
import TextScan.Stream.Lines
import TextScan.CharClass
import TextScan.Value
import TextScan.Value.Equality
import TextScan.Value.Visiting
import TextScan.Value.Shown
import TextScan.Error
import TextScan.Argument
import TextScan.Argument.Bound
import TextScan.Argument.Holder
import TextScan.Stream.Sealed
import TextScan.Argument.Walk
import TextScan.Config
import TextScan.Comparison
import TextScan.Operation
import TextScan.Log
import TextScan.Report
import TextScan.Operation.Method
import TextScan.Session.Store
import TextScan.Session.Term
import TextScan.Session.Command
import TextScan.Session
import TextScan.Buffer.Itemwise
import TextScan.Buffer.Stretch
import TextScan.Buffer.Search
import TextScan.Search
import TextScan.Subscript
import TextScan.Proofs.Scan
import TextScan.Proofs.BufferSearch
import TextScan.Proofs.Window
import TextScan.Proofs.Reply
import TextScan.Proofs.Placement
import TextScan.Proofs.Agreement
import TextScan.Proofs.Refinement
import TextScan.Proofs.Family
import TextScan.Proofs.Independence
import TextScan.Proofs.Partition
import TextScan.Proofs.StoreInvariant
import TextScan.Proofs.SessionInvariant
import TextScan.Proofs.Answering
import TextScan.Proofs.Calling
import TextScan.Proofs.Making
import TextScan.Proofs.SessionEffects
import TextScan.Proofs.SessionRun
import TextScan.Proofs.Spelling
import TextScan.Proofs.Transcription
import TextScan.Proofs.Widths
import TextScan.Proofs.WidthRuns
import TextScan.Proofs.Readback
import TextScan.Proofs.Refusal
import TextScan.Proofs.RefusedCalls
import TextScan.Proofs.EncodingOrder
import TextScan.Proofs.ContentOrder
import TextScan.Proofs.SurrogateOrder
import TextScan.Proofs.Cutting
import TextScan.Proofs.WalkInvariant
import TextScan.Proofs.Frame
import TextScan.Proofs.Iteration
import TextScan.Proofs.Grounds
import TextScan.Proofs.Ties
import TextScan.Proofs.WalkGrounds
import TextScan.Proofs.Pinning
import TextScan.Proofs.Quiet
import TextScan.Proofs.QuietCommands
import TextScan.Proofs.Assertions
import TextScan.Proofs.Erasure
import TextScan.Proofs.ErasedEffects
import TextScan.Proofs.Toggle
import TextScan.Proofs.Renaming
import TextScan.Proofs.Transport
import TextScan.Proofs.TransportedCalls
import TextScan.Proofs.Mirror
import TextScan.Proofs.TwinAnswers
import TextScan.Proofs.TwinEffects
import TextScan.Proofs.Lockstep
import TextScan.Proofs.Interference
import TextScan.Proofs.Aliasing
import TextScan.Proofs.Parties
import TextScan.Proofs.Occurrence
import TextScan.Proofs.Stops
import TextScan.Proofs.Trimming
import TextScan.Proofs.Synonyms
import TextScan.Proofs.Delimiting
import TextScan.Proofs.Splitting
import TextScan.Proofs.Scoping
import TextScan.Proofs.Coercion
import TextScan.Proofs.Gathering
import TextScan.Proofs.Locating
import TextScan.Proofs.Narrowing
import TextScan.Proofs.SearchAnswers
import TextScan.Proofs.Counting
import TextScan.Proofs.Sealing
import TextScan.Proofs.Yielding

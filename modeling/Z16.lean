import Z16.Main
import Z16.Proofs.Encoding.RoundTrip
import Z16.Proofs.Machine.Run
import Z16.Proofs.Machine.Range
import Z16.Proofs.Clock.Tick
import Z16.Proofs.Clock.Undisturbed
import Z16.Proofs.Clock.Interleaving
import Z16.Proofs.Clock.Limit
import Z16.Proofs.Clock.Life
import Z16.Proofs.Clock.Rhythm
import Z16.Proofs.Clock.Lifetime
import Z16.Proofs.Console.Draining
import Z16.Proofs.Outcome.ClockedRun
import Z16.Proofs.Text.Numerals
import Z16.Proofs.Text.Pieces
import Z16.Proofs.Encoding.Decoded
import Z16.Proofs.Listing.Labels
import Z16.Proofs.Listing.Entries
import Z16.Proofs.Listing.Control
import Z16.Proofs.Listing.Operands
import Z16.Proofs.Listing.Determined
import Z16.Proofs.Encoding.Canonical
import Z16.Proofs.Listing.Reassembled
import Z16.Proofs.Image.ProgramWords
import Z16.Proofs.Listing.Program
import Z16.Proofs.Machine.Loading
import Z16.Proofs.Machine.Commands
import Z16.Proofs.Machine.Stopping
import Z16.Proofs.Transcript
import Z16.Proofs.Memory.Flat
import Z16.Proofs.Machine.Stores
import Z16.Proofs.Machine.Operations
import Z16.Proofs.Machine.History
import Z16.Proofs.Listing.Numbering
import Z16.Proofs.Listing.Layout
import Z16.Proofs.Word
import Z16.Proofs.Machine.Frame
import Z16.Proofs.Machine.Reference
import Z16.Proofs.Machine.Composition
import Z16.Proofs.Clock.Failures
import Z16.Proofs.Console.Reading
import Z16.Proofs.Machine.HostCalls
import Z16.Proofs.Text
import Z16.Proofs.Console.Printing
import Z16.Proofs.Console.Dump
import Z16.Proofs.Console.Session
import Z16.Proofs.BitString
import Z16.Proofs.Image.Layout
import Z16.Proofs.Console.Output
import Z16.Proofs.Decimal.Numerals
import Z16.Proofs.Console.Integer
import Z16.Proofs.BitString.Extension
import Z16.Proofs.BitString.Fields
import Z16.Proofs.Machine.Fields
import Z16.Proofs.Listing.LabelCalls
import Z16.Proofs.CommandLine.Settings

import Shdlc.Session
import Shdlc.FarSide.Script
import Shdlc.Files
import Shdlc.Json.Reader
import Shdlc.Version.Json
import Shdlc.Main
import Shdlc.Proofs.Work
import Shdlc.Proofs.Command.Answers
import Shdlc.Proofs.Text.Trimming
import Shdlc.Proofs.Text.Numerals
import Shdlc.Proofs.Text.HexBytes
import Shdlc.Proofs.Command.Readings
import Shdlc.Proofs.Frame.Canonical
import Shdlc.Proofs.Frame.Standing
import Shdlc.Proofs.Frame.Damage
import Shdlc.Proofs.Frame.Acceptance
import Shdlc.Proofs.Frame.Transparency
import Shdlc.Proofs.Image.Writes
import Shdlc.Proofs.Image.Loading
import Shdlc.Proofs.Image.Spelling
import Shdlc.Proofs.Image.Contents
import Shdlc.Proofs.Image.Cursor
import Shdlc.Proofs.Image.Labels
import Shdlc.Proofs.Reception.Waiting
import Shdlc.Proofs.Reception.RoundTrip
import Shdlc.Proofs.Reception.Outcome
import Shdlc.Proofs.Reception.Cutting
import Shdlc.Proofs.Reception.Gathering
import Shdlc.Proofs.Reception.Begun
import Shdlc.Proofs.Reception.Bound
import Shdlc.Proofs.Reception.Deadline
import Shdlc.Proofs.Bus.Execution
import Shdlc.Proofs.Bus.Line
import Shdlc.Proofs.Bus.Staleness
import Shdlc.Proofs.Bus.Belief
import Shdlc.Proofs.Bus.Failure
import Shdlc.Proofs.Bus.Answering
import Shdlc.Proofs.Station.Baudrate
import Shdlc.Proofs.Station.Errors
import Shdlc.Proofs.Update.Script
import Shdlc.Proofs.Update.Course
import Shdlc.Proofs.Update.Steps
import Shdlc.Proofs.Update.Run
import Shdlc.Proofs.Update.Refusal
import Shdlc.Proofs.Update.Blame
import Shdlc.Proofs.Update.Transfer
import Shdlc.Proofs.Update.Bitrates
import Shdlc.Proofs.Decimal.Rounding
import Shdlc.Proofs.Decimal.Order
import Shdlc.Proofs.Update.Percentages
import Shdlc.Proofs.Update.Telling
import Shdlc.Proofs.Update.Snapshot
import Shdlc.Proofs.Session.Occurrences
import Shdlc.Proofs.Update.Memory
import Shdlc.Proofs.Session.History
import Shdlc.Proofs.Session.Errors
import Shdlc.Proofs.Session.Oversize
import Shdlc.Proofs.FarSide.Registers
import Shdlc.Proofs.Session.Registers
import Shdlc.Proofs.Json.Numerals
import Shdlc.Proofs.Json.Spelling
import Shdlc.Proofs.Json.Reading
import Shdlc.Proofs.Json.Line
import Shdlc.Proofs.Json.Rewriting
import Shdlc.Proofs.Json.RoundTrip
import Shdlc.Proofs.CommandLine.Routine
import Shdlc.Proofs.CommandLine.Tasks
import Shdlc.Proofs.CommandLine.Stream

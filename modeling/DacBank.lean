import DacBank.Numeric.Rounding
import DacBank.Numeric.Binary64
import DacBank.Numeric.Shortest
import DacBank.Text.Hex
import DacBank.Text.Reader
import DacBank.Document.Value
import DacBank.Text.Ranges
import DacBank.Text.WhiteSpace
import DacBank.Text.Alphanumeric
import DacBank.Text.Unseen
import DacBank.Text.Decimal
import DacBank.Text.Quoted
import DacBank.Row
import DacBank.Channel
import DacBank.Document.Fault
import DacBank.Error
import DacBank.Converter
import DacBank.Dac
import DacBank.Mythen3
import DacBank.Event
import DacBank.Selector
import DacBank.Payload
import DacBank.Program
import DacBank.Detector
import DacBank.Property
import DacBank.Dac.Access
import DacBank.Matrix
import DacBank.Table
import DacBank.Bank
import DacBank.Bank.Request
import DacBank.Filter
import DacBank.Document.Field
import DacBank.Document.Record
import DacBank.Document.Json.Writer
import DacBank.Document.Json.Number
import DacBank.Document.Json.Reader
import DacBank.Document.Toml.Quoting
import DacBank.Document.Toml.Moment
import DacBank.Document.Toml.Scalar
import DacBank.Document.Toml.Tree
import DacBank.Document.Toml.Reader
import DacBank.Document.Toml.Writer
import DacBank.Table.File
import DacBank.ModuleValues
import DacBank.RegisterFile
import DacBank.Simulator
import DacBank.Simulator.Change
import DacBank.Script
import DacBank.Shelf
import DacBank.Proofs.Simulator.Calls
import DacBank.Proofs.Simulator.Run
import DacBank.Proofs.Simulator.History
import DacBank.Proofs.Bank.Import
import DacBank.Proofs.Simulator.Access
import DacBank.Proofs.Bank.Isolation
import DacBank.Proofs.Document.Toml.Quoting
import DacBank.Proofs.Document.Toml.Scalar
import DacBank.Proofs.Document.Record
import DacBank.Proofs.Document.Toml.Lines
import DacBank.Proofs.Document.Toml.Tree
import DacBank.Proofs.Document.Toml.Document
import DacBank.Proofs.Table.RoundTrip
import DacBank.Bank.Session
import DacBank.Proofs.Property.Reply
import DacBank.Proofs.Property.Convention
import DacBank.Proofs.Bank.Turns
import DacBank.Proofs.Bank.FailFast
import DacBank.Proofs.Bank.Bounds
import DacBank.Proofs.Bank.Export
import DacBank.Proofs.Bank.Loops
import DacBank.Proofs.Program.Silence
import DacBank.Proofs.Matrix
import DacBank.Proofs.Bank.Names
import DacBank.Proofs.Bank.ImportSource
import DacBank.Proofs.Simulator.Batch
import DacBank.Proofs.Dac.Simulated
import DacBank.Proofs.Bank.Simulated
import DacBank.Proofs.Bank.RoundTrip
import DacBank.Proofs.Bank.Validation
import DacBank.Proofs.Simulator.Tally
import DacBank.Proofs.Bank.Moves
import DacBank.Proofs.Bank.Reset
import DacBank.Proofs.Program.ReadsOnly
import DacBank.Proofs.Simulator.Reads
import DacBank.Proofs.Bank.Reads
import DacBank.Proofs.Simulator.Reach
import DacBank.Proofs.Simulator.Objections
import DacBank.Proofs.Bank.PartialImport
import DacBank.Proofs.Bank.PartialReset
import DacBank.Proofs.Dac.Written
import DacBank.Proofs.Dac.Independent
import DacBank.Proofs.Dac.Millivolts
import DacBank.Proofs.Bank.Announced
import DacBank.Proofs.Numeric.Rounding
import DacBank.Proofs.Converter.Line
import DacBank.Proofs.Converter.Rounded
import DacBank.Proofs.Converter.Accepted
import DacBank.Proofs.Converter.Nearest
import DacBank.Proofs.Converter.Ends
import DacBank.Proofs.Converter.Ltc2620
import DacBank.Proofs.Converter.Order
import DacBank.Proofs.Row
import DacBank.Proofs.Selector
import DacBank.Proofs.Bank.Display
import DacBank.Proofs.Document.Json.Printed
import DacBank.Proofs.Document.Entries
import DacBank.Proofs.Document.Forms
import DacBank.Proofs.Document.Json.Records
import DacBank.Proofs.Document.Forms
import DacBank.Proofs.Document.Json.Records

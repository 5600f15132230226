import FieldClock.Calendar
import FieldClock.Command.Complaint
import FieldClock.Command.Options
import FieldClock.Command.Program
import FieldClock.Command.Surroundings
import FieldClock.Decimal.Binary64
import FieldClock.Decimal.Shortest
import FieldClock.DeviceTime
import FieldClock.Duration
import FieldClock.Duration.Reading
import FieldClock.Duration.Unit
import FieldClock.Duration.Written
import FieldClock.Exchange
import FieldClock.Fault
import FieldClock.Instant
import FieldClock.Instant.Iso
import FieldClock.Json
import FieldClock.Live.Fault
import FieldClock.Live.Network
import FieldClock.Live.Surroundings
import FieldClock.Main
import FieldClock.Modbus.Client
import FieldClock.Modbus.Fault
import FieldClock.Modbus.Frame
import FieldClock.Modbus.Pdu
import FieldClock.Modbus.Peer
import FieldClock.Modbus.Wire
import FieldClock.RegisterMap
import FieldClock.Report.Json
import FieldClock.Report.Text
import FieldClock.Round
import FieldClock.Script
import FieldClock.Settings
import FieldClock.Settings.File
import FieldClock.Settings.Reading
import FieldClock.Settings.Writing
import FieldClock.SimulatedClock
import FieldClock.Sink
import FieldClock.Target
import FieldClock.Target.Reading
import FieldClock.Text.Blank
import FieldClock.Text.Hidden
import FieldClock.Text.Numeral
import FieldClock.Text.Quoted
import FieldClock.Toml.Quoting
import FieldClock.Toml.Reading
import FieldClock.Toml.Scalar
import FieldClock.Toml.Table
import FieldClock.Toml.Text
import FieldClock.Toml.Value
import FieldClock.Toml.Writing
import FieldClock.Transport
import FieldClock.Words
import FieldClock.Proofs.Exchange.Conversation
import FieldClock.Proofs.Modbus.Frame
import FieldClock.Proofs.Modbus.Reply
import FieldClock.Proofs.Modbus.Receiving
import FieldClock.Proofs.DeviceTime.Registers
import FieldClock.Proofs.Exchange.OverStream
import FieldClock.Proofs.Modbus.Alignment
import FieldClock.Proofs.Modbus.Serving
import FieldClock.Proofs.Modbus.Transcript
import FieldClock.Proofs.SimulatedClock.Registers
import FieldClock.Proofs.Settings.Validity
import FieldClock.Proofs.SimulatedClock.Exchange
import FieldClock.Proofs.Settings.Layout
import FieldClock.Proofs.Text.Numeral
import FieldClock.Proofs.Duration.RoundTrip
import FieldClock.Proofs.Toml.Quoting
import FieldClock.Proofs.Toml.Scalar
import FieldClock.Proofs.Toml.Document
import FieldClock.Proofs.Settings.RoundTrip
import FieldClock.Proofs.Modbus.Actions
import FieldClock.Proofs.Modbus.Connection
import FieldClock.Proofs.Exchange.Faults
import FieldClock.Proofs.Round.Isolation
import FieldClock.Proofs.Command.Output
import FieldClock.Proofs.Target.Grammar
import FieldClock.Proofs.Modbus.Memory
import FieldClock.Proofs.Modbus.Acceptance
import FieldClock.Proofs.Command.Deeds
import FieldClock.Proofs.Command.Flags
import FieldClock.Proofs.Command.Validation
import FieldClock.Proofs.Calendar
import FieldClock.Proofs.Instant.Iso
import FieldClock.Proofs.Text.Lines
import FieldClock.Proofs.Report.Lines
import FieldClock.Proofs.Json.Reading
import FieldClock.Proofs.Json
import FieldClock.Proofs.Report.Agreement
import FieldClock.Proofs.Text.Decimal
import FieldClock.Proofs.Target.Text
import FieldClock.Proofs.DeviceTime.Instants
import FieldClock.Proofs.Calendar.Succession
import FieldClock.Proofs.Instant.Spelling
import FieldClock.Proofs.DeviceTime.Text
import FieldClock.Proofs.Settings.Known
import FieldClock.Proofs.Toml.Sections
import FieldClock.Proofs.Settings.Notes
import FieldClock.Proofs.Settings.Overlay
import FieldClock.Proofs.DeviceTime.Codec
import FieldClock.Proofs.SimulatedClock.RegisterFile
import FieldClock.Proofs.Report.Blame
import FieldClock.Proofs.Report.Stream

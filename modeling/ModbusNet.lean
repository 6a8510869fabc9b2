import ModbusNet.Library.Words
import ModbusNet.Library.Bits
import ModbusNet.Library.Parts
import ModbusNet.Library.Slices
import ModbusNet.Library.Incoming
import ModbusNet.Library.Binary32
import ModbusNet.Library.Scan
import ModbusNet.Library.Print
import ModbusNet.Library.Remainders
import ModbusNet.Library.Heap
import ModbusNet.Model.Types
import ModbusNet.Model.Setup
import ModbusNet.Model.Crc
import ModbusNet.Model.Device
import ModbusNet.Model.Connect
import ModbusNet.Model.Win32Serial
import ModbusNet.Model.Backend
import ModbusNet.Model.Receive
import ModbusNet.Model.Data
import ModbusNet.Model.Floats
import ModbusNet.Model.IntMacros
import ModbusNet.Model.Reply
import ModbusNet.Model.Client
import ModbusNet.Model.Line
import ModbusNet.Model.Loopback
import ModbusNet.Model.Network
import ModbusNet.Model.Simulator
import ModbusNet.Model.UnitTestServer
import ModbusNet.Model.Meter
import ModbusNet.Model.UpdateFile
import ModbusNet.Model.Controller
import ModbusNet.Model.ManyUp
import ModbusNet.Model.Unreliable
import ModbusNet.Model.RandomTest
import ModbusNet.Model.Timeouts
import ModbusNet.Model.Allocating
import ModbusNet.Model.EnergyNetwork
import ModbusNet.Protocol.Pdu
import ModbusNet.Protocol.Service
import ModbusNet.Protocol.Operations
import ModbusNet.Proof.Framing
import ModbusNet.Proof.PduFraming
import ModbusNet.Proof.Reply
import ModbusNet.Proof.Connections
import ModbusNet.Proof.Connect
import ModbusNet.Proof.Win32Serial
import ModbusNet.Proof.Flush
import ModbusNet.Proof.Lines
import ModbusNet.Proof.ClientRequests
import ModbusNet.Proof.ServerSafety
import ModbusNet.Proof.Backends
import ModbusNet.Proof.Receptions
import ModbusNet.Proof.RequestStream
import ModbusNet.Proof.Bus
import ModbusNet.Proof.Confirmation
import ModbusNet.Proof.ClientEffects
import ModbusNet.Proof.Frames
import ModbusNet.Proof.Answers
import ModbusNet.Proof.Store
import ModbusNet.Proof.Pipeline
import ModbusNet.Proof.Splitting
import ModbusNet.Proof.ClientEncoding
import ModbusNet.Proof.Responses
import ModbusNet.Proof.ClientReads
import ModbusNet.Proof.EndToEnd
import ModbusNet.Proof.StaleResponses
import ModbusNet.Proof.Ledger
import ModbusNet.Proof.Accounts
import ModbusNet.Proof.Meter
import ModbusNet.Proof.Controller
import ModbusNet.Proof.Simulators
import ModbusNet.Proof.Checksums
import ModbusNet.Proof.Completions
import ModbusNet.Proof.FrameSizes
import ModbusNet.Proof.Handlers
import ModbusNet.Proof.MeterIndices
import ModbusNet.Proof.BitTables
import ModbusNet.Proof.BitRoundTrip
import ModbusNet.Proof.IntMacros
import ModbusNet.Proof.Floats
import ModbusNet.Proof.UpdateFile
import ModbusNet.Proof.FileLookup
import ModbusNet.Proof.Intake
import ModbusNet.Proof.ManyUp
import ModbusNet.Proof.Turns
import ModbusNet.Proof.Descriptors
import ModbusNet.Proof.Transmissions
import ModbusNet.Proof.Unreliable
import ModbusNet.Proof.RandomTest
import ModbusNet.Proof.Timeouts
import ModbusNet.Proof.Allocating
import ModbusNet.Proof.EnergyNetwork
import ModbusNet.Proof.SimulatorMain
import ModbusNet.Proof.CorruptedRequests
import ModbusNet.Proof.RawRequests
import ModbusNet.Proof.SerialBus

import BoardDriver.Text.Numeral
import BoardDriver.Text.Blank
import BoardDriver.Text.Unprintable
import BoardDriver.Text.Quoted
import BoardDriver.Text.Tenths
import BoardDriver.Text.ControlSequence
import BoardDriver.Bits
import BoardDriver.Checked
import BoardDriver.Board.Mode
import BoardDriver.Board.Rights
import BoardDriver.Board.Layout
import BoardDriver.Board.RegisterMap
import BoardDriver.Board.InterruptVector
import BoardDriver.Error
import BoardDriver.Event.Basic
import BoardDriver.Event.Subscriber
import BoardDriver.Event.Registry
import BoardDriver.Event.Dispatcher
import BoardDriver.Register.Action
import BoardDriver.Register.Backend
import BoardDriver.Register.Recorded
import BoardDriver.Register.RegisterFile
import BoardDriver.Register.Memory
import BoardDriver.Register.MappedWindow
import BoardDriver.Register.Bank
import BoardDriver.Register.Table
import BoardDriver.Transfer.Ticket
import BoardDriver.Transfer.Descriptor
import BoardDriver.Transfer.Request
import BoardDriver.Transfer.Scheduler
import BoardDriver.Transfer.Ledger
import BoardDriver.Transfer.Launch
import BoardDriver.Transfer.Engine
import BoardDriver.Transfer.DmaUnit
import BoardDriver.Transfer.Probe
import BoardDriver.Transfer.OwnedMemory
import BoardDriver.Interrupt
import BoardDriver.Statistics
import BoardDriver.Config
import BoardDriver.Config.Environment
import BoardDriver.Board.Backend
import BoardDriver.Device.Basic
import BoardDriver.Device.Session
import BoardDriver.Device.Command
import BoardDriver.CommandLine.Number
import BoardDriver.CommandLine.Parameter
import BoardDriver.CommandLine.Level
import BoardDriver.CommandLine.Invocation
import BoardDriver.CommandLine.Help
import BoardDriver.CommandLine.Run
import BoardDriver.Main
import BoardDriver.Proofs.Scheduler
import BoardDriver.Proofs.Nesting
import BoardDriver.Proofs.Client
import BoardDriver.Proofs.EngineRecord
import BoardDriver.Proofs.ChannelPool
import BoardDriver.Proofs.StartOrder
import BoardDriver.Proofs.Tickets
import BoardDriver.Proofs.RequestFate
import BoardDriver.Proofs.Binding
import BoardDriver.Proofs.DeviceLedger
import BoardDriver.Proofs.InterruptRouting
import BoardDriver.Proofs.AccessGuard
import BoardDriver.Proofs.Correspondence
import BoardDriver.Proofs.Reset
import BoardDriver.Proofs.Replay
import BoardDriver.Proofs.DeviceHistory
import BoardDriver.Proofs.MappedMemory
import BoardDriver.Proofs.BarMemory
import BoardDriver.Proofs.Delivery
import BoardDriver.Proofs.RegisterEvents
import BoardDriver.Proofs.SessionQueues
import BoardDriver.Proofs.DmaDoneRouting
import BoardDriver.Proofs.RegistryHistory
import BoardDriver.Proofs.SubscriberIsolation
import BoardDriver.Proofs.DispatchOrder
import BoardDriver.Proofs.InterruptCases
import BoardDriver.Proofs.RegisterMirror
import BoardDriver.Proofs.OrderedChecks
import BoardDriver.Proofs.Construction
import BoardDriver.Proofs.SessionRoster
import BoardDriver.Proofs.SynchronousEngine
import BoardDriver.Proofs.Load
import BoardDriver.Proofs.Draining
import BoardDriver.Proofs.Rebinding
import BoardDriver.Proofs.RegisterDisplay
import BoardDriver.Proofs.TransferAccounting
import BoardDriver.Proofs.RegisterHistory
import BoardDriver.Proofs.FanOut
import BoardDriver.Proofs.SimulatedInterrupt
import BoardDriver.Proofs.RangeErrors
import BoardDriver.Proofs.StepsInOrder
import BoardDriver.Proofs.RangeReads
import BoardDriver.Proofs.BackendAccess
import BoardDriver.Proofs.ReadModifyWrite
import BoardDriver.Proofs.StartSequence
import BoardDriver.Proofs.MemoryHistory
import BoardDriver.Proofs.SpeedMean
import BoardDriver.Proofs.WindowHistory
import BoardDriver.Proofs.WindowReach
import BoardDriver.Proofs.TicketOrder
import BoardDriver.Proofs.Numerals
import BoardDriver.Proofs.EnvironmentSettings
import BoardDriver.Proofs.RoundTrip
import BoardDriver.Proofs.TransferSeries

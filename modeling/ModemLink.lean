import ModemLink.Codec.BitSerial
import ModemLink.Main
import ModemLink.Proofs.Dispatch.Acknowledgement
import ModemLink.Proofs.Dispatch.Conservation
import ModemLink.Proofs.Dispatch.Delivery
import ModemLink.Proofs.Session.LoopLifetime
import ModemLink.Proofs.Session.SleepCycle
import ModemLink.Proofs.Session.Suspension
import ModemLink.Registry
import ModemLink.Report.Names
import ModemLink.Report.Settings
import ModemLink.Service
import ModemLink.Session.Operation
import ModemLink.Timeout
import ModemLink.Proofs.Session.LoopLifecycle
import ModemLink.Proofs.Session.Tenancy
import ModemLink.Proofs.Session.SuspendPermission
import ModemLink.Proofs.Session.IdleTimer
import ModemLink.Proofs.Session.Possession
import ModemLink.Proofs.Session.Configuration
import ModemLink.Proofs.Session.Footprint
import ModemLink.Session.Happening
import ModemLink.Proofs.Session.Conduct
import ModemLink.Proofs.Session.PowerLoss
import ModemLink.Proofs.Session.WaitWake
import ModemLink.Proofs.Session.PowerCycle
import ModemLink.Proofs.Session.Rollback
import ModemLink.Proofs.Service.Wakeup
import ModemLink.Proofs.Service.StopLatency
import ModemLink.Proofs.Service.TransmitOrder
import ModemLink.Proofs.Service.Handshake
import ModemLink.Proofs.Session.Removal
import ModemLink.Post
import ModemLink.Worker.Run
import ModemLink.Proofs.Session.Scope
import ModemLink.Proofs.Bus.Roster
import ModemLink.Proofs.Worker.Commands
import ModemLink.Proofs.Worker.Outlook
import ModemLink.Proofs.Worker.Hotplug
import ModemLink.Store.Run
import ModemLink.Proofs.Store.Order
import ModemLink.Proofs.Toml.Strings
import ModemLink.Proofs.Toml.Numbers
import ModemLink.Proofs.Toml.RoundTrip
import ModemLink.Proofs.Store.Refinement
import ModemLink.Proofs.Session.Closing
import ModemLink.Proofs.Session.IdleSuspend
import ModemLink.Proofs.Session.Opening
import ModemLink.Proofs.Settings.Channels
import ModemLink.Power.PoolRun
import ModemLink.Proofs.Power.RequestPool
import ModemLink.Proofs.Store.FailedWrite
import ModemLink.Proofs.Power.Handles
import ModemLink.Proofs.Fcs.Residue
import ModemLink.Proofs.Frame.ErrorDetection
import ModemLink.Proofs.FlowControl.DefinedBits
import ModemLink.Proofs.Usb.Records
import ModemLink.Proofs.Usb.SlotTable
import ModemLink.Proofs.Usb.Selection
import ModemLink.Proofs.Usb.SingleSetting
import ModemLink.Bus.Stack
import ModemLink.Proofs.Bus.LinkHolder
import ModemLink.Proofs.Bus.Holding
import ModemLink.Proofs.Bus.ActiveSetting
import ModemLink.Proofs.Session.CheckedHeader
import ModemLink.Proofs.Session.PipeReset
import ModemLink.Proofs.Settings.Identifiers
import ModemLink.Power.AdapterRun
import ModemLink.Proofs.Power.Adapters
import ModemLink.Proofs.Session.Restart
import ModemLink.Proofs.Session.Counters
import ModemLink.Proofs.Text.Utf16
import ModemLink.Proofs.Usb.StringDescriptor
import ModemLink.Proofs.Fcs.Coverage

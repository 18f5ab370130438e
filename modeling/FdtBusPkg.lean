import FdtBusPkg.Library.FirstMatch
import FdtBusPkg.Library.Span
import FdtBusPkg.Library.Loop
import FdtBusPkg.Library.Segment
import FdtBusPkg.Library.Align
import FdtBusPkg.Library.SpanMap
import FdtBusPkg.Library.BigEndian
import FdtBusPkg.Library.LastWrite
import FdtBusPkg.Library.Leases
import FdtBusPkg.Library.SpanList
import FdtBusPkg.Library.Terminated
import FdtBusPkg.Library.Logged
import FdtBusPkg.Library.PlacedCopy
import FdtBusPkg.Library.PlacedView
import FdtBusPkg.Library.OpenRecords
import FdtBusPkg.Base
import FdtBusPkg.NorFlash.Device
import FdtBusPkg.DtBus.Device
import FdtBusPkg.DtBus.Registers
import FdtBusPkg.DtBus.RegisterWindow
import FdtBusPkg.DtBus.Ticks
import FdtBusPkg.DtBus.PollReg
import FdtBusPkg.DtBus.CopyReg
import FdtBusPkg.DtBus.Property
import FdtBusPkg.DtBus.StringList
import FdtBusPkg.DtBus.Translate
import FdtBusPkg.DtBus.TranslateExact
import FdtBusPkg.DtBus.RegParse
import FdtBusPkg.DtBus.Environment
import FdtBusPkg.DtBus.Gcd
import FdtBusPkg.DtBus.GcdOutcome
import FdtBusPkg.DtBus.IndexedParse
import FdtBusPkg.DtBus.ParseProp
import FdtBusPkg.DtBus.ParseContract
import FdtBusPkg.DtBus.RoundTrip
import FdtBusPkg.Interrupt.Nexus
import FdtBusPkg.Interrupt.MapRows
import FdtBusPkg.Interrupt.Walk
import FdtBusPkg.Interrupt.Total
import FdtBusPkg.Interrupt.ReadBounds
import FdtBusPkg.NorFlash.Views
import FdtBusPkg.NorFlash.InitializeOnce
import FdtBusPkg.Pci.DmaReach
import FdtBusPkg.DtBus.DmaBounce
import FdtBusPkg.DtBus.DmaRuns
import FdtBusPkg.DtBus.DmaWindows
import FdtBusPkg.DtBus.Create
import FdtBusPkg.DtBus.CellCounts
import FdtBusPkg.DtBus.DmaLimit
import FdtBusPkg.Pci.AccessCheck
import FdtBusPkg.Pci.Config
import FdtBusPkg.Pci.Ranges
import FdtBusPkg.Pci.Routing
import FdtBusPkg.Pci.HostBridge
import FdtBusPkg.Pci.ResourceSearch
import FdtBusPkg.Pci.AllocatePhase
import FdtBusPkg.Pci.Ownership
import FdtBusPkg.Pci.Proposed
import FdtBusPkg.Pci.HostBridgeAgreement
import FdtBusPkg.Pci.BusNumbers
import FdtBusPkg.Pci.AllocationOrder
import FdtBusPkg.Pci.SubmitResources
import FdtBusPkg.Pci.KeepAndFree
import FdtBusPkg.Pci.IoSpace
import FdtBusPkg.HighMem.MemoryRanges
import FdtBusPkg.HighMem.Usable
import FdtBusPkg.DtBus.Registry
import FdtBusPkg.DtBus.Registration
import FdtBusPkg.DtBus.OneDevice
import FdtBusPkg.DtBus.DriverStart
import FdtBusPkg.DtBus.EndOfDxe
import FdtBusPkg.DtBus.Lookup
import FdtBusPkg.DtBus.Naming
import FdtBusPkg.DtBus.PathToHandle
import FdtBusPkg.DtBus.Handles
import FdtBusPkg.DtBus.Restart
import FdtBusPkg.Virtio.Children
import FdtBusPkg.Virtio.Binding
import FdtBusPkg.NorFlash.ChildCreate
import FdtBusPkg.Library.LoggedLoop
import FdtBusPkg.DtBus.TripletWalks
import FdtBusPkg.PciInfo.OptionRom
import FdtBusPkg.Serial.BaudRate
import FdtBusPkg.Serial.Attributes
import FdtBusPkg.Library.RingBuffer
import FdtBusPkg.Library.PartialLoop
import FdtBusPkg.Serial.Transfer
import FdtBusPkg.Serial.Moves
import FdtBusPkg.Serial.Conservation
import FdtBusPkg.Serial.Port
import FdtBusPkg.Serial.ControlBits
import FdtBusPkg.Serial.Described
import FdtBusPkg.Serial.Driver
import FdtBusPkg.Serial.Children
import FdtBusPkg.Serial.Accounts
import FdtBusPkg.Serial.Entries
import FdtBusPkg.Library.Session
import FdtBusPkg.NorFlash.Session
import FdtBusPkg.Pci.DeviceMemory
import FdtBusPkg.Pci.ConfigSpaces
import FdtBusPkg.Pci.SmallApertures
import FdtBusPkg.Pci.Reachable
import FdtBusPkg.App.GetOpt
import FdtBusPkg.Pci.PcdProducer
import FdtBusPkg.NorFlash.DriverStart
import FdtBusPkg.Serial.Ready

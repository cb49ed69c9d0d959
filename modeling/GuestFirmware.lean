import GuestFirmware.Acpi.Install
import GuestFirmware.Acpi.Rsdp
import GuestFirmware.Acpi.Table
import GuestFirmware.Arithmetic
import GuestFirmware.Display.Binding
import GuestFirmware.Display.Blt
import GuestFirmware.Display.Canvas
import GuestFirmware.Display.GraphicsOutput
import GuestFirmware.Display.Handshake
import GuestFirmware.Display.HostFrame
import GuestFirmware.Display.MediatedDevice
import GuestFirmware.Display.Pixels
import GuestFirmware.Display.Policy
import GuestFirmware.Display.Protocol
import GuestFirmware.Display.State
import GuestFirmware.Display.VideoBios
import GuestFirmware.E820.Entry
import GuestFirmware.E820.Map
import GuestFirmware.E820.Publish
import GuestFirmware.E820.Summary
import GuestFirmware.Handoff.Builder
import GuestFirmware.Handoff.Descriptor
import GuestFirmware.Handoff.List
import GuestFirmware.Hex
import GuestFirmware.LittleEndian
import GuestFirmware.Memory
import GuestFirmware.Platform.Guid
import GuestFirmware.Platform.Monad
import GuestFirmware.Platform.Services
import GuestFirmware.Proofs.Acpi.Worklist
import GuestFirmware.Proofs.LittleEndian.Slices
import GuestFirmware.Smbios.EntryPoint
import GuestFirmware.Smbios.Record
import GuestFirmware.Smbios.Republish
import GuestFirmware.Status
import GuestFirmware.Status.Name
import GuestFirmware.Timer.ApicTimer
import GuestFirmware.Timer.BitField
import GuestFirmware.Timer.Calibration
import GuestFirmware.Timer.LocalApic
import GuestFirmware.Timer.Protocol
import GuestFirmware.Timer.SimulatedClock
import GuestFirmware.Proofs.Acpi.Walk
import GuestFirmware.Proofs.Handoff.RoundTrip
import GuestFirmware.Proofs.E820.ReadBack
import GuestFirmware.Proofs.Platform.Log
import GuestFirmware.Proofs.Display.Exits
import GuestFirmware.Proofs.Display.Runs
import GuestFirmware.Proofs.Display.Resources
import GuestFirmware.Proofs.Display.LeftBehind
import GuestFirmware.Proofs.Display.GivenBack
import GuestFirmware.Proofs.Display.RowFolds
import GuestFirmware.Proofs.Display.Bounds
import GuestFirmware.Proofs.Display.Drawing
import GuestFirmware.Proofs.Display.Geometry
import GuestFirmware.Proofs.Timer.Fields
import GuestFirmware.Proofs.Timer.Visits
import GuestFirmware.Proofs.Timer.Consistent
import GuestFirmware.Proofs.Timer.Notifications
import GuestFirmware.Proofs.Smbios.RoundTrip
import GuestFirmware.Proofs.Smbios.Grammar
import GuestFirmware.Proofs.Memory.Search
import GuestFirmware.Proofs.Smbios.EntryPoint
import GuestFirmware.Proofs.Smbios.Republication
import GuestFirmware.Proofs.Platform.Levels
import GuestFirmware.Proofs.Display.Moves
import GuestFirmware.Proofs.Display.Words
import GuestFirmware.Proofs.Display.Verdict
import GuestFirmware.Proofs.Display.Copies
import GuestFirmware.Proofs.Acpi.RootForms
import GuestFirmware.Proofs.Timer.Installation
import GuestFirmware.Proofs.E820.Arithmetic
import GuestFirmware.Proofs.E820.Sizes
import GuestFirmware.Proofs.E820.Agreement
import GuestFirmware.Proofs.Display.StartDecision
import GuestFirmware.Proofs.E820.Stretches
import GuestFirmware.Proofs.E820.WriteBack
import GuestFirmware.Proofs.E820.Recut
import GuestFirmware.Proofs.Handoff.Headers
import GuestFirmware.Proofs.Memory.ChangedByte
import GuestFirmware.Proofs.Acpi.RootPointer
import GuestFirmware.Proofs.Smbios.Protection
import GuestFirmware.Proofs.Timer.Measurement
import GuestFirmware.Proofs.Timer.Counts
import GuestFirmware.Proofs.Timer.LockedClock
import GuestFirmware.Proofs.Timer.SampledClock
import GuestFirmware.Proofs.Timer.Rearming
import GuestFirmware.Proofs.Timer.DeadlineArithmetic
import GuestFirmware.Proofs.Display.TableSearch
import GuestFirmware.Proofs.Display.KeptTable
import GuestFirmware.Proofs.Display.PixelSlice
import GuestFirmware.Proofs.Display.Examination

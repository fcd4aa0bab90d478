import InterruptCore.Text.Digits
import InterruptCore.Text.Flags
import InterruptCore.Text.Writer
import InterruptCore.Bytes
import InterruptCore.Abort
import InterruptCore.Descriptor.Error
import InterruptCore.Descriptor.Selector
import InterruptCore.Descriptor.Segment
import InterruptCore.Descriptor.SegmentTable
import InterruptCore.Descriptor.Gate
import InterruptCore.Descriptor.GateTable
import InterruptCore.Descriptor.TablePointer
import InterruptCore.Exception
import InterruptCore.Context
import InterruptCore.Context.Dump
import InterruptCore.Fault
import InterruptCore.Port
import InterruptCore.Log
import InterruptCore.Irq.Line
import InterruptCore.Irq.Table
import InterruptCore.Pic.Driver
import InterruptCore.Pic.Bus
import InterruptCore.Pic.Chip
import InterruptCore.Pit
import InterruptCore.OnceFlag
import InterruptCore.MaskingLock
import InterruptCore.Text.Printable
import InterruptCore.Text.Quoted
import InterruptCore.Text.Utf8
import InterruptCore.Device
import InterruptCore.Trap.Route
import InterruptCore.Trap.Adapter
import InterruptCore.Board
import InterruptCore.Kernel.State
import InterruptCore.Machine.Program
import InterruptCore.Kernel.Console
import InterruptCore.Kernel.Controllers
import InterruptCore.Kernel.Interrupts
import InterruptCore.Kernel.Timer
import InterruptCore.Kernel.Panic
import InterruptCore.Kernel.Tables
import InterruptCore.Kernel.Traps
import InterruptCore.Kernel.Boot
import InterruptCore.Machine.State
import InterruptCore.Machine.Perform
import InterruptCore.Machine.Run
import InterruptCore.Machine.Instants
import InterruptCore.Machine.Trace
import InterruptCore.Proofs.Trap.Transparency
import InterruptCore.Proofs.Machine.Terms
import InterruptCore.Proofs.Board.Effects
import InterruptCore.Proofs.Trap.Vector
import InterruptCore.Proofs.Irq.Registration
import InterruptCore.Proofs.Irq.Notices
import InterruptCore.Proofs.Trap.Separation
import InterruptCore.Proofs.Descriptor.Gate
import InterruptCore.Proofs.Descriptor.GateTable
import InterruptCore.Proofs.Trap.Delivery
import InterruptCore.Proofs.Machine.Masked
import InterruptCore.Proofs.Kernel.Masked
import InterruptCore.Proofs.Machine.Gates
import InterruptCore.Proofs.Machine.Starts
import InterruptCore.Proofs.Trap.Terminal
import InterruptCore.Proofs.Text.Wire
import InterruptCore.Proofs.Trap.Reports
import InterruptCore.Proofs.Trap.Preemption
import InterruptCore.Proofs.Machine.Guard
import InterruptCore.Proofs.Kernel.Sections
import InterruptCore.Proofs.Kernel.Interruption
import InterruptCore.Proofs.Kernel.Deadlock
import InterruptCore.Proofs.Kernel.StartUp
import InterruptCore.Proofs.Kernel.Opening
import InterruptCore.Proofs.Machine.Nesting
import InterruptCore.Proofs.Descriptor.Segment
import InterruptCore.Proofs.Pic.Agreement
import InterruptCore.Proofs.Descriptor.GateBytes
import InterruptCore.Proofs.Descriptor.ProtectedGate
import InterruptCore.Proofs.MaskingLock.DropOrder
import InterruptCore.Proofs.Text.Numerals
import InterruptCore.Proofs.Fault.Terminality
import InterruptCore.Proofs.Kernel.AnyOrder
import InterruptCore.Proofs.Kernel.Scenes
import InterruptCore.Proofs.Kernel.Service
import InterruptCore.Proofs.Kernel.Ticks
import InterruptCore.Proofs.Kernel.Passages
import InterruptCore.Proofs.Kernel.PoweredOn
import InterruptCore.Proofs.Text.Lines
import InterruptCore.Proofs.Kernel.Idling
import InterruptCore.Proofs.Log.Attachment
import InterruptCore.Proofs.Fault.Lossless
import InterruptCore.Proofs.Fault.Truncation
import InterruptCore.Proofs.MaskingLock.Brackets
import InterruptCore.Proofs.Pic.Decisions
import InterruptCore.Proofs.Machine.Undisturbed
import InterruptCore.Proofs.Kernel.Speech
import InterruptCore.Proofs.Kernel.Output
import InterruptCore.Proofs.Kernel.Registering
import InterruptCore.Proofs.Kernel.Refusal
import InterruptCore.Proofs.Descriptor.Population
import InterruptCore.Proofs.Kernel.Servicing
import InterruptCore.Proofs.Kernel.Sleeping
import InterruptCore.Proofs.Kernel.SleepLength
import InterruptCore.Proofs.Pit.Divisor
import InterruptCore.Proofs.Kernel.Programming
import InterruptCore.Proofs.Kernel.Pieces
import InterruptCore.Proofs.Kernel.Wraparound

import InterruptCore.Descriptor.SegmentTable
import InterruptCore.Device
import InterruptCore.Fault
import InterruptCore.Irq.Table
import InterruptCore.OnceFlag
import InterruptCore.Pic.Driver

/-! The memory of the kernel: its drivers' states, tables, flags and locks. -/
namespace InterruptCore

namespace Kernel

inductive Lock where
  | serial
  | controllers
  | faults
  /-- Shared use of the IRQ table. -/
  | tableRead
  /-- Sole use of the IRQ table. -/
  | tableWrite
  deriving DecidableEq, Repr

structure Locks where
  serial : Bool := false
  controllers : Bool := false
  faults : Bool := false
  tableReaders : Nat := 0
  tableWriter : Bool := false
  deriving DecidableEq, Repr, Inhabited

namespace Locks

def free (ls : Locks) : Lock → Bool
  | .serial => !ls.serial
  | .controllers => !ls.controllers
  | .faults => !ls.faults
  | .tableRead => !ls.tableWriter
  | .tableWrite => !ls.tableWriter && ls.tableReaders = 0

def take (ls : Locks) : Lock → Locks
  | .serial => { ls with serial := true }
  | .controllers => { ls with controllers := true }
  | .faults => { ls with faults := true }
  | .tableRead => { ls with tableReaders := ls.tableReaders + 1 }
  | .tableWrite => { ls with tableWriter := true }

def drop (ls : Locks) : Lock → Locks
  | .serial => { ls with serial := false }
  | .controllers => { ls with controllers := false }
  | .faults => { ls with faults := false }
  | .tableRead => { ls with tableReaders := ls.tableReaders - 1 }
  | .tableWrite => { ls with tableWriter := false }

end Locks

/-- Where log lines go: the serial port, or a buffer that an observer reads. -/
inductive Sink where
  | serial
  | buffer (number : Nat)
  deriving DecidableEq, Repr

inductive Handler where
  /-- Counts the ticks of the interval timer. -/
  | timer
  | device (d : Device)
  deriving DecidableEq, Repr

end Kernel

structure Kernel where
  locks : Kernel.Locks := {}
  log : Log Kernel.Sink := {}
  serialReady : OnceFlag := {}
  pic : Pic.Driver := {}
  picRemapped : OnceFlag := {}
  irqs : Irq.Table Kernel.Handler := Irq.Table.empty
  /-- Rate of the interval timer; zero before it is programmed. -/
  frequency : UInt32 := 0
  ticks : UInt64 := 0
  segments : List UInt64 := SegmentTable.kernel
  segmentsLoaded : OnceFlag := {}
  gates : GateTable := GateTable.empty
  gatesLoaded : OnceFlag := {}
  faults : Fault.Handler := {}
  panicking : OnceFlag := {}
  booted : OnceFlag := {}
  /-- The boot loader sets this if it supports the requested revision of its protocol. -/
  revisionAccepted : Bool := false

instance : Inhabited Kernel := ⟨{}⟩

end InterruptCore

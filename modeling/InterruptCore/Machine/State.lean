import InterruptCore.Machine.Program

/-! The machine: one CPU with its control registers, table registers and interrupt flag,
ports with a serial port among them, memory, and the traps that are still to come. -/
namespace InterruptCore

namespace Machine

/-- A trap as the CPU sees it: the registers of the code that it interrupts are part of it. -/
structure Incoming where
  vector : UInt8
  errorCode : UInt64 := 0
  registers : Registers := {}
  cr2 : Option UInt64 := none
  deriving DecidableEq, Repr

/-- How far a run has come. -/
structure Progress where
  outs : Nat := 0
  requests : Nat := 0
  deriving DecidableEq, Repr, Inhabited

/-- A trap that arrives at the first instant that is due, just before a request. -/
structure Arrival where
  due : Request → Progress → Bool
  trap : Incoming

/-- Arrives before the first write to a port after `n` others. -/
def Arrival.beforeOut (n : Nat) (t : Incoming) : Arrival where
  due r p := match r with
    | .out _ _ => n ≤ p.outs
    | _ => false
  trap := t

inductive Event where
  | out (port : Port) (value : UInt8)
  /-- A byte that the serial port sent. -/
  | character (byte : UInt8)
  | input (port : Port) (value : UInt8)
  | segmentTable (limit : UInt16) (words : List UInt64)
  | gateTable (limit : UInt16) (table : GateTable)
  | segment (register : SegmentRegister) (selector : Selector)
  /-- Return from a trap, with the registers that it loaded and whether they are those of
  the interrupted code. -/
  | returned (vector : UInt8) (loaded : Registers) (same : Bool)
  | note (n : Note)
  | captured (buffer : Nat) (text : String)
  deriving DecidableEq, Repr

inductive Stop where
  /-- Waiting with the interrupt flag set, and no interrupt is to come. -/
  | idle
  /-- Waiting with the interrupt flag clear. -/
  | halted
  /-- A trap before any gate table was loaded. -/
  | noTable
  /-- A trap on a vector without a gate. -/
  | noGate
  /-- A gate that points at no adapter. -/
  | noAdapter
  /-- Waiting for a lock that nobody will release. -/
  | blocked (lock : Kernel.Lock)
  deriving DecidableEq, Repr

def Stop.name : Stop → String
  | idle => "idle"
  | halted => "halted"
  | noTable => "no_idt"
  | noGate => "no_gate"
  | noAdapter => "no_adapter"
  | blocked _ => "blocked"

end Machine

structure Machine where
  flag : Bool := false
  cr0 : UInt64 := 0
  cr2 : UInt64 := 0
  cr3 : UInt64 := 0
  cr4 : UInt64 := 0
  /-- Address of the top of the stack. -/
  rsp : UInt64 := 0x7fffffffe000
  gdtr : Option TablePointer := none
  idtr : Option TablePointer := none
  latches : Latches := {}
  /-- Reads of the line status that find the transmitter busy, before each that finds it
  empty; after those it is busy no more. -/
  busyReads : List Nat := []
  kernel : Kernel := {}
  progress : Machine.Progress := {}
  /-- Traps that arrive while code runs, in order. -/
  arrivals : List Machine.Arrival := []
  wake : List Machine.Incoming := []
  /-- The latest first. -/
  past : List Machine.Event := []

namespace Machine

instance : Inhabited Machine := ⟨{}⟩

def events (m : Machine) : List Event := m.past.reverse

def record (m : Machine) (e : Event) : Machine := { m with past := e :: m.past }

def pending (m : Machine) : Nat := m.arrivals.length + m.wake.length

/-- Reads of the line status that are still to find the transmitter busy. -/
def busyLeft (m : Machine) : Nat := m.busyReads.foldr (· + ·) 0

/-- Exceptions are taken in any case, interrupts only with the flag set. -/
def accepts (m : Machine) (t : Incoming) : Bool := m.flag || t.vector.toNat < exceptionVectors

/-- The result of a run: an answer, or a stop before there was one. -/
inductive Outcome (α : Type) where
  | answered (a : α) (m : Machine)
  | stopped (why : Stop) (m : Machine)

namespace Outcome

variable {α β γ : Type}

def bind : Outcome α → (α → Machine → Outcome β) → Outcome β
  | .answered a m, f => f a m
  | .stopped why m, _ => .stopped why m

theorem bind_bind (o : Outcome α) (f : α → Machine → Outcome β)
    (g : β → Machine → Outcome γ) :
    (o.bind f).bind g = o.bind fun a m => (f a m).bind g := by
  cases o <;> rfl

theorem bind_eq_answered {o : Outcome α} {f : α → Machine → Outcome β} {b : β} {m : Machine}
    (h : o.bind f = .answered b m) : ∃ a now, o = .answered a now ∧ f a now = .answered b m := by
  cases o with
  | answered a now => exact ⟨a, now, rfl, h⟩
  | stopped why m => cases h

def machine : Outcome α → Machine
  | .answered _ m => m
  | .stopped _ m => m

end Outcome

def waitingStop (m : Machine) : Stop := if m.flag then .idle else .halted

end Machine

end InterruptCore

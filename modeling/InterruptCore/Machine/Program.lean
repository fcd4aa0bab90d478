import InterruptCore.Descriptor.TablePointer
import InterruptCore.Kernel.State

/-! Programs of the kernel: finite trees of requests to the machine, each with its
continuation. A wait is one request, whose loop the machine runs. -/
namespace InterruptCore

namespace Machine

inductive ControlRegister where
  | cr0
  | cr2
  | cr3
  | cr4
  deriving DecidableEq, Repr

inductive SegmentRegister where
  | cs
  | ds
  | es
  | ss
  | fs
  | gs
  deriving DecidableEq, Repr

def SegmentRegister.name : SegmentRegister → String
  | cs => "cs"
  | ds => "ds"
  | es => "es"
  | ss => "ss"
  | fs => "fs"
  | gs => "gs"

def lineStatus : Port := ⟨0x3fd⟩

def transmitterEmpty : UInt8 := 0x20

/-- Bits to wait for at a port. No port but the line status comes to have other bits by itself. -/
structure Poll where
  port : Port
  mask : UInt8
  comes : port = lineStatus ∧ transmitterEmpty &&& mask ≠ 0

inductive Request where
  | out (port : Port) (value : UInt8)
  | input (port : Port)
  /-- Reads the port again and again, until it has one of the bits. -/
  | poll (wait : Poll)
  | interruptFlag
  | clearFlag
  | setFlag
  | halt
  | haltWhile (waiting : Kernel → Bool)
  | haltForever
  | control (register : ControlRegister)
  | stackPointer
  | loadSegmentTable (pointer : TablePointer)
  | loadGateTable (pointer : TablePointer)
  | loadSegment (register : SegmentRegister) (selector : Selector)
  /-- Reads and changes memory in one step; the answer is the memory before. -/
  | memory (change : Kernel → Kernel)
  /-- Waits until the lock is free and takes it. -/
  | acquire (lock : Kernel.Lock)
  /-- Takes the lock if it is free. -/
  | tryAcquire (lock : Kernel.Lock)
  | release (lock : Kernel.Lock)
  | note (n : Note)
  /-- Appends to a buffer that an observer reads. -/
  | capture (buffer : Nat) (text : String)

/-- What a request is answered with. -/
@[reducible] def Request.Answer : Request → Type
  | .input _ => UInt8
  | .interruptFlag => Bool
  | .haltForever => Empty
  | .control _ => UInt64
  | .stackPointer => UInt64
  | .memory _ => Kernel
  | .tryAcquire _ => Bool
  | _ => Unit

end Machine

inductive Program (α : Type) : Type where
  | done (a : α)
  | ask (r : Machine.Request) (next : r.Answer → Program α)

namespace Program

open Machine

variable {α β γ : Type}

def bind : Program α → (α → Program β) → Program β
  | .done a, f => f a
  | .ask r next, f => .ask r fun a => (next a).bind f

instance : Monad Program where
  pure := .done
  bind := Program.bind

theorem bind_done (p : Program α) : p.bind .done = p := by
  induction p with
  | done a => rfl
  | ask r next ih => simp only [bind, ih]

theorem bind_assoc (p : Program α) (f : α → Program β) (g : β → Program γ) :
    (p.bind f).bind g = p.bind fun a => (f a).bind g := by
  induction p with
  | done a => rfl
  | ask r next ih => simp only [bind, ih]

instance : LawfulMonad Program :=
  LawfulMonad.mk' Program (fun p => bind_done p) (fun _ _ => rfl) (fun p f g => bind_assoc p f g)

def request (r : Request) : Program r.Answer := .ask r .done

def out (port : Port) (value : UInt8) : Program Unit := request (.out port value)
def input (port : Port) : Program UInt8 := request (.input port)
def interruptFlag : Program Bool := request .interruptFlag
def clearFlag : Program Unit := request .clearFlag
def setFlag : Program Unit := request .setFlag
def acquire (l : Kernel.Lock) : Program Unit := request (.acquire l)
def tryAcquire (l : Kernel.Lock) : Program Bool := request (.tryAcquire l)
def release (l : Kernel.Lock) : Program Unit := request (.release l)

def memory : Program Kernel := request (.memory id)

def exchange (change : Kernel → Kernel) : Program Kernel := request (.memory change)

def change (f : Kernel → Kernel) : Program Unit := discard (exchange f)

/-- Runs with the interrupt flag clear, and sets it afterwards if it was set before. -/
def withoutInterrupts (p : Program α) : Program α := do
  let found ← interruptFlag
  if found then
    clearFlag
    let a ← p
    setFlag
    return a
  else p

def holding (l : Kernel.Lock) (p : Program α) : Program α := do
  acquire l
  let a ← p
  release l
  return a

/-- Stops this CPU: interrupts off, then waiting for ever. -/
def haltLoop : Program Empty := do
  clearFlag
  request .haltForever

end Program

end InterruptCore

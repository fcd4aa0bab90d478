import InterruptCore.Kernel.Panic
import InterruptCore.Kernel.Tables
import InterruptCore.Kernel.Timer
import InterruptCore.Text.Quoted

/-! Start-up: steps in a fixed order, the last of which enables interrupts. -/
namespace InterruptCore.Kernel

open Machine Program Text

inductive BootError where
  | descriptor (e : DescriptorError)
  | line (e : Irq.LineError)
  | precondition (text : String)
  deriving DecidableEq, Repr

namespace BootError

def message : BootError → String
  | descriptor e => "descriptor: " ++ e.message
  | line e => "irq: " ++ e.message
  | precondition t => "precondition: " ++ t

/-- The cause and its value, for diagnostics. -/
def inspect : BootError → String
  | descriptor e => "Descriptor(" ++ e.inspect ++ ")"
  | line e => "Irq(" ++ e.inspect ++ ")"
  | precondition t => "Precondition(" ++ quoted t ++ ")"

end BootError

namespace Boot

inductive Step where
  | serial
  | protocol
  | segments
  | controllers
  | gates
  | timer
  | interrupts
  deriving DecidableEq, Repr

def Step.name : Step → String
  | serial => "serial"
  | protocol => "limine"
  | segments => "gdt"
  | controllers => "pic"
  | gates => "idt"
  | timer => "pit"
  | interrupts => "interrupts"

/-- Every table is written before anything can read it. -/
def order : List Step :=
  [.serial, .protocol, .segments, .controllers, .gates, .timer, .interrupts]

def Step.run : Step → Program (Except BootError Unit)
  | serial => do
    Console.init
    return .ok ()
  | protocol => do
    if (← memory).revisionAccepted then return .ok ()
    return .error (.precondition "Limine base revision not supported")
  | segments => do return (← Tables.initSegments).mapError .descriptor
  | controllers => do
    Controllers.remap
    return .ok ()
  | gates => do return (← Tables.initGates).mapError .descriptor
  | timer => do return (← Timer.init Pit.defaultHz).mapError .line
  | interrupts => do
    let k ← memory
    if k.segmentsLoaded.isSet && k.gatesLoaded.isSet then
      setFlag
      return .ok ()
    return .error (.precondition "descriptor tables not loaded")

/-- A step that fails ends the start-up. -/
def runStep (s : Step) : Program Unit := do
  writeLog (Log.debug ["BOOT: step '", s.name, "'"])
  match ← s.run with
  | .ok () => return ()
  | .error e =>
    let never ← Panic.panic ["boot step '", s.name, "' failed: ", e.message]
    nomatch never

/-- Runs every step in order; only the first call does anything. -/
def runAll : Program Unit := do
  let before ← exchange fun k => { k with booted := k.booted.mark }
  if before.booted.isSet then return ()
  order.forM runStep
  writeLog (Log.info ["BOOT: early init complete, interrupts enabled"])

def start : Program Empty := do
  runAll
  Console.writeLine "DomeOS: interrupt core online."
  Timer.sleep 100
  let ticks := (← memory).ticks
  Console.print ["DomeOS: ", decimal ticks.toNat, " timer ticks, idling.\n"]
  request .haltForever

end Boot

end InterruptCore.Kernel

import InterruptCore.Device
import InterruptCore.Fault
import InterruptCore.Irq.Table
import InterruptCore.Pic.Bus
import InterruptCore.Trap.Adapter
import InterruptCore.Trap.Route

/-! The parts of the kernel wired together without a CPU: one IRQ table, one pair of
interrupt controllers on a remembering bus, one fault handler, a gate table with adapters
and a log. A call changes the board and gives a reply; what happens meanwhile is kept as a
list of events. -/
namespace InterruptCore

open Irq Pic Trap

namespace Board

inductive Event where
  | bus (t : Transferred)
  | called (device : Device) (c : Context)
  | note (n : Note)
  /-- A target was called; the low byte of the vector word. -/
  | fault (vector : UInt8)
  | irq (vector : UInt8)
  | logged (text : String)
  | reported (text : String)
  deriving DecidableEq, Repr

end Board

structure Board where
  irqs : Table Device := Table.empty
  pic : Driver := {}
  latches : Latches := {}
  faults : Fault.Handler := {}
  gates : GateTable := GateTable.empty
  adapters : Adapters := Adapter.addresses
  log : Log Unit := {}
  /-- The latest last. -/
  events : List Board.Event := []

namespace Board

abbrev Action := StateM Board

def emit (e : Event) : Action Unit := modify fun b => { b with events := b.events ++ [e] }

def takeEvents : Action (List Event) :=
  modifyGet fun b => (b.events, { b with events := [] })

def writeLog (line : Log.Line) : Action Unit := do
  match (← get).log.writes line with
  | some (_, pieces) => pieces.forM fun p => emit (.logged p)
  | none => return ()

def transfer (ts : List Transfer) : Action (List UInt8) := do
  let (latches, done) := transferAll (← get).latches ts
  modify fun b => { b with latches := latches }
  done.forM fun t => emit (.bus t)
  return valuesRead done

/-- A command to the controllers; a refused one reaches no port. -/
def command (c : Command) : Action (Except LineError (List UInt8)) := do
  match Driver.check c with
  | .error e => return .error e
  | .ok () =>
    let values ← transfer ((← get).pic.transfers c)
    modify fun b => { b with pic := b.pic.next c }
    return .ok values

abbrev Drivers := Device → Context → Action Unit

def notingDrivers : Drivers
  | .recorder name, c => emit (.note (.handled name c))
  | .logger name, c => writeLog (Device.logLine name c)
  | .plain, c => emit (.note (.called c.vectorWord))

def carryOut (drivers : Drivers) (c : Context) : Irq.Action Device → Action Unit
  | .log line => writeLog line
  | .run device => do
    emit (.called device c)
    drivers device c
  | .acknowledge line => discard (command (.endOfInterrupt line))

def dispatchIrq (drivers : Drivers) (c : Context) : Action Unit := do
  let (irqs, actions) := (← get).irqs.dispatch c
  modify fun b => { b with irqs := irqs }
  actions.forM (carryOut drivers c)

def register (line : UInt8) (name : String) (device : Device) :
    Action (Except LineError Unit) := do
  match (← get).irqs.register line name device with
  | .error e => return .error e
  | .ok irqs =>
    ((← get).irqs.registerLog line).forM writeLog
    modify fun b => { b with irqs := irqs }
    return .ok ()

def unregister (line : UInt8) : Action (Except LineError Unit) := do
  match (← get).irqs.unregister line with
  | .error e => return .error e
  | .ok irqs =>
    modify fun b => { b with irqs := irqs }
    return .ok ()

def reportFault (cr2 : UInt64) (c : Context) : Action Unit := do
  let pieces := (← get).faults.output c cr2
  modify fun b => { b with faults := b.faults.next c }
  pieces.forM fun p => emit (.reported p)

/-- The targets of the kernel; each notes that it was called. -/
def targets (drivers : Drivers) (cr2 : UInt64) : Targets Action where
  fault c := do
    emit (.fault c.vector)
    reportFault cr2 c
  irq c := do
    emit (.irq c.vector)
    dispatchIrq drivers c

def dispatch (drivers : Drivers) (c : Context) (cr2 : UInt64) : Action Disposition :=
  Trap.dispatch (targets drivers cr2) c

def populate (withIrqs : Bool) : Action (Except DescriptorError Nat) := do
  match GateTable.populate (← get).gates (← get).adapters withIrqs with
  | .error e => return .error e
  | .ok (installed, gates) =>
    modify fun b => { b with gates := gates }
    return .ok installed

/-- The vector whose adapter a trap on `vector` enters, if there is a gate for it. -/
def entered (b : Board) (vector : UInt8) : Option UInt8 :=
  let raw := b.gates.gate vector
  if Gate64.isPresent raw then adapterAt? b.adapters (Gate64.target raw) else none

def trap (drivers : Drivers) (c : Context) (cr2 : UInt64) : Action (Option Disposition) := do
  match (← get).entered c.vector with
  | none => return none
  | some v => some <$> dispatch drivers { c with vectorWord := v.toUInt64 } cr2

inductive Call where
  | register (line : UInt8) (name : String) (device : Device)
  | unregister (line : UInt8)
  | command (c : Command)
  /-- An interrupt that goes straight to the IRQ table. -/
  | interrupt (c : Context)
  /-- A trap that goes straight to the dispatcher. -/
  | dispatch (c : Context) (cr2 : UInt64)
  | populate (withIrqs : Bool)
  | trap (c : Context) (cr2 : UInt64)
  deriving DecidableEq, Repr

@[reducible] def Call.Reply : Call → Type
  | .register _ _ _ | .unregister _ => Except LineError Unit
  | .command _ => Except LineError (List UInt8)
  | .interrupt _ => Unit
  | .dispatch _ _ => Disposition
  | .populate _ => Except DescriptorError Nat
  | .trap _ _ => Option Disposition

def perform (drivers : Drivers) : (c : Call) → Action c.Reply
  | .register l n d => register l n d
  | .unregister l => unregister l
  | .command c => command c
  | .interrupt c => dispatchIrq drivers c
  | .dispatch c cr2 => dispatch drivers c cr2
  | .populate w => populate w
  | .trap c cr2 => trap drivers c cr2

def next (drivers : Drivers) (b : Board) (c : Call) : Board := ((perform drivers c).run b).2

def run (drivers : Drivers) (b : Board) (calls : List Call) : Board :=
  calls.foldl (next drivers) b

end Board

end InterruptCore

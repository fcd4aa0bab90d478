import InterruptCore.Kernel.Controllers

/-! The kernel's IRQ table. Handlers are installed by normal code with interrupts off and
looked up in interrupts; a handler must not install handlers. -/
namespace InterruptCore.Kernel

open Machine Program Irq

abbrev Drivers := Device → Context → Program Unit

def notingDrivers : Drivers
  | .recorder name, c => request (.note (.handled name c))
  | .logger name, c => writeLog (Device.logLine name c)
  | .plain, c => request (.note (.called c.vectorWord))

def Handler.run (drivers : Drivers) (c : Context) : Handler → Program Unit
  | .timer => change fun k => { k with ticks := k.ticks + 1 }
  | .device d => drivers d c

namespace Interrupts

def store (line : UInt8) (name : String) (h : Handler) : Program (Except LineError Unit) := do
  let k ← memory
  match k.irqs.register line name h with
  | .error e => return .error e
  | .ok irqs =>
    (k.irqs.registerLog line).forM writeLog
    change fun k => { k with irqs := irqs }
    return .ok ()

/-- Installs a handler, then enables the line at the controllers. -/
def register (line : UInt8) (name : String) (h : Handler) :
    Program (Except LineError Unit) := do
  if ← interruptFlag then
    writeLog (Log.warn ["IRQ: line ", Text.decimal line.toNat, " changed with interrupts enabled"])
  match ← withoutInterrupts (holding .tableWrite (store line name h)) with
  | .error e => return .error e
  | .ok () =>
    match ← Controllers.unmaskLine line with
    | .error e => return .error e
    | .ok () =>
      writeLog (Log.debug ["IRQ: registered '", name, "' on line ", Text.decimal line.toNat])
      return .ok ()

def count (line : UInt8) : Program UInt64 :=
  holding .tableRead do return (← memory).irqs.count line

def perform (drivers : Drivers) (c : Context) : Irq.Action Handler → Program Unit
  | .log line => writeLog line
  | .run h => h.run drivers c
  | .acknowledge line =>
    holding .controllers (discard (Controllers.command (.endOfInterrupt line)))

/-- Serves an interrupt from the trap path. -/
def dispatch (drivers : Drivers) (c : Context) : Program Unit :=
  holding .tableRead do
    let before ← exchange fun k => { k with irqs := (k.irqs.dispatch c).1 }
    (before.irqs.dispatch c).2.forM (perform drivers c)

end Interrupts

end InterruptCore.Kernel

import InterruptCore.Kernel.Interrupts
import InterruptCore.Kernel.Panic
import InterruptCore.Trap.Route

/-! Where the kernel delivers traps to, and what the adapters call. -/
namespace InterruptCore.Kernel.Traps

open Machine Program Trap

/-- The faulting address, which belongs to page faults alone. -/
def faultAddress (c : Context) : Program UInt64 :=
  if c.vector = Exception.pageFault then request (.control .cr2) else pure 0

/-- With the handler held: writes what it has to say, then halts it. -/
def reportFault (c : Context) : Program Unit := do
  let cr2 ← faultAddress c
  Console.report ((← memory).faults.output c cr2)
  change fun k => { k with faults := k.faults.next c }

/-- Reports an exception. The handler is held while its report is written, so that an
exception raised meanwhile finds it taken. -/
def fault (c : Context) : Program Unit := do
  if ← tryAcquire .faults then
    reportFault c
    release .faults
  else
    let never ← Panic.panicWithContext ["exception while reporting an exception"] c
    nomatch never

def targets (drivers : Drivers) : Targets Program where
  fault := fault
  irq := Interrupts.dispatch drivers

def dispatch (drivers : Drivers) (c : Context) : Program Disposition :=
  Trap.dispatch (targets drivers) c

/-- What an adapter calls with the context on its stack. -/
def entry (drivers : Drivers) (c : Context) : Program Unit := do
  match ← dispatch drivers c with
  | .halt =>
    let never ← haltLoop
    nomatch never
  | .resume => return ()

end InterruptCore.Kernel.Traps

import InterruptCore.Kernel.Console

/-! The interrupt controllers behind their lock. -/
namespace InterruptCore.Kernel

open Machine Program Irq

namespace Controllers

/-- A transfer on the real ports; the pause is a write to the diagnostic port. -/
def transfer : Pic.Transfer → Program (List UInt8)
  | .write p v => do
    out p v
    return []
  | .read p => do
    let v ← input p
    return [v]
  | .delay => do
    out Port.postDelay 0
    return []

/-- A command, with the lock held by the caller; gives the values read. -/
def command (c : Pic.Command) : Program (Except LineError (List UInt8)) := do
  match Pic.Driver.check c with
  | .error e => return .error e
  | .ok () =>
    let values ← ((← memory).pic.transfers c).mapM transfer
    change fun k => { k with pic := k.pic.next c }
    return .ok values.flatten

/-- Moves both controllers off the exception vectors. -/
def remap : Program Unit := do
  withoutInterrupts (holding .controllers (discard (command (.remap Pic.Masks.standard))))
  change fun k => { k with picRemapped := k.picRemapped.mark }
  writeLog (Log.debug ["PIC: remapped to vectors 0x", Text.hex Pic.masterVectorOffset.toNat, "/0x",
    Text.hex Pic.slaveVectorOffset.toNat, ", masks ", Pic.Masks.standard.inspect])

def unmaskLine (line : UInt8) : Program (Except LineError Unit) := do
  let r ← withoutInterrupts (holding .controllers (command (.unmaskLine line)))
  return r.map fun _ => ()

end Controllers

end InterruptCore.Kernel

import InterruptCore.Kernel.Console
import InterruptCore.Trap.Adapter

/-! Loading of the descriptor tables, each at most once. -/
namespace InterruptCore.Kernel.Tables

open Machine Program Text

/-- The far return reloads the code segment, then come the data segments. -/
def loadSegments : Program Unit := do
  request (.loadSegment .cs Selector.kernelCode)
  [SegmentRegister.ds, .es, .ss, .fs, .gs].forM fun r =>
    request (.loadSegment r Selector.kernelData)

def initSegments : Program (Except DescriptorError Unit) := do
  if (← memory).segmentsLoaded.isSet then return .ok ()
  writeLog (Log.debug ["GDT: loading ", decimal SegmentTable.kernel.length, " descriptors"])
  match TablePointer.new SegmentTable.address SegmentTable.size with
  | .error e => return .error e
  | .ok pointer =>
    request (.loadSegmentTable pointer)
    loadSegments
    writeLog (Log.debug ["GDT: loaded, code=0x", hex Selector.kernelCode.bits.toNat, " data=0x",
      hex Selector.kernelData.bits.toNat])
    change fun k => { k with segmentsLoaded := k.segmentsLoaded.mark }
    return .ok ()

/-- IRQ gates wait for the controllers: before those are moved, their interrupts would
arrive on exception vectors. -/
def initGates : Program (Except DescriptorError Unit) := do
  let k ← memory
  if k.gatesLoaded.isSet then return .ok ()
  let withIrqs := k.picRemapped.isSet
  if !withIrqs then
    writeLog (Log.warn ["IDT: PIC not remapped, leaving vectors ", decimal irqBaseVector.toNat, "-",
      decimal (supportedVectors - 1), " absent"])
  match GateTable.populate k.gates Trap.Adapter.addresses withIrqs with
  | .error e => return .error e
  | .ok (installed, gates) =>
    change fun k => { k with gates := gates }
    match TablePointer.new GateTable.address GateTable.size with
    | .error e => return .error e
    | .ok pointer =>
      request (.loadGateTable pointer)
      change fun k => { k with gatesLoaded := k.gatesLoaded.mark }
      writeLog (Log.debug ["IDT: loaded ", decimal installed, " gates"])
      return .ok ()

end InterruptCore.Kernel.Tables

import InterruptCore.Kernel.Interrupts
import InterruptCore.Pit

/-! The interval timer on line 0. -/
namespace InterruptCore.Kernel.Timer

open Machine Program Irq

/-- Programs the nearest rate that a divisor gives. -/
def setFrequency (hz : UInt32) : Program Unit := do
  let divisor := Pit.divisor hz
  writeLog (Log.trace ["PIT: divisor ", Text.decimal divisor.toNat, " for ", Text.decimal hz.toNat,
    " Hz"])
  out Port.pitCommand Pit.commandByte
  out Port.pitChannel0 (UInt8.ofNat (divisor.toNat % 256))
  out Port.pitChannel0 (UInt8.ofNat (divisor.toNat / 256))
  out Port.postDelay 0
  let actual := Pit.actualHz hz
  change fun k => { k with frequency := actual }
  writeLog (Log.debug ["PIT: frequency set to ", Text.decimal actual.toNat, " Hz"])

/-- The rate in force; the default one before any was programmed. -/
def rate (k : Kernel) : UInt32 := if k.frequency = 0 then Pit.defaultHz else k.frequency

def init (hz : UInt32) : Program (Except LineError Unit) := do
  writeLog (Log.info ["PIT: initializing timer at ", Text.decimal (Pit.actualHz hz).toNat, " Hz"])
  setFrequency hz
  Interrupts.register Known.timer.line "pit" .timer

/-- Halts until enough ticks were counted; interrupts must be enabled. -/
def sleep (ms : UInt32) : Program Unit := do
  if ms = 0 then return ()
  let needed := Pit.ticksFor ms (rate (← memory))
  let target := (← memory).ticks + needed
  request (.haltWhile fun k => k.ticks < target)

end InterruptCore.Kernel.Timer

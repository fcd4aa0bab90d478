/-! The interval timer: the divisor for a rate, and the length of a sleep in ticks. -/
namespace InterruptCore.Pit

def baseHz : UInt32 := 1193182
def defaultHz : UInt32 := 100

/-- Zero asks for the default rate; no rate is above the base clock. -/
def effectiveHz (hz : UInt32) : UInt32 := if hz = 0 then defaultHz else min hz baseHz

/-- The divisor that comes nearest to a rate from above, as far as 16 bits reach. -/
def divisor (hz : UInt32) : UInt16 :=
  UInt16.ofNat (max 1 (min 0xffff (baseHz.toNat / (effectiveHz hz).toNat)))

/-- The rate that the divisor for `hz` gives. -/
def actualHz (hz : UInt32) : UInt32 := baseHz / (divisor hz).toUInt32

/-- Channel 0, low byte then high byte, square wave, binary. -/
def commandByte : UInt8 := 0x36

/-- Ticks that make up a time; never none. -/
def ticksFor (ms hz : UInt32) : UInt64 :=
  UInt64.ofNat (max 1 (ms.toNat * hz.toNat / 1000))

end InterruptCore.Pit

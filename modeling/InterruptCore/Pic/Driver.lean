import InterruptCore.Irq.Line
import InterruptCore.Port

/-! The pair of 8259 interrupt controllers, as their driver sees it. A command is a list of
byte transfers on the bus; the driver keeps the masks that it last wrote. -/
namespace InterruptCore.Pic

open Irq

/-- Mask registers of both chips; a set bit disables the line. -/
structure Masks where
  master : UInt8
  slave : UInt8
  deriving DecidableEq, Repr, Inhabited

namespace Masks

/-- Timer and keyboard enabled, every other line disabled. -/
def standard : Masks := ⟨0xfc, 0xff⟩

def allMasked : Masks := ⟨0xff, 0xff⟩

/-- The shift by a line's place on the second chip must stay within a byte. -/
def isMasked (m : Masks) (line : UInt8) : Except Abort Bool :=
  if line < linesPerChip then .ok (m.master.toNat.testBit line.toNat)
  else if line - linesPerChip < 8 then .ok (m.slave.toNat.testBit (line - linesPerChip).toNat)
  else .error .shiftOverflow

def bit (line : UInt8) : UInt8 := 1 <<< line

def mask (m : Masks) (line : UInt8) : Masks :=
  if line < linesPerChip then { m with master := m.master ||| bit line }
  else { m with slave := m.slave ||| bit (line - linesPerChip) }

/-- Enabling a line of the second chip opens the line that the chip is wired to as well. -/
def unmask (m : Masks) (line : UInt8) : Masks :=
  if line < linesPerChip then { m with master := m.master &&& ~~~(bit line) }
  else ⟨m.master &&& ~~~(bit cascadeLine), m.slave &&& ~~~(bit (line - linesPerChip))⟩

def inspect (m : Masks) : String :=
  "PicMasks \x7b master: " ++ Text.decimal m.master.toNat ++ ", slave: "
    ++ Text.decimal m.slave.toNat ++ " \x7d"

end Masks

/-- Starts initialisation: cascade mode, edge triggered, a fourth word follows. -/
def initWord : UInt8 := 0x11
def masterVectorOffset : UInt8 := irqBaseVector
def slaveVectorOffset : UInt8 := irqSlaveBaseVector
/-- The second chip is on line 2, as a bit mask. -/
def masterCascade : UInt8 := 0x04
/-- The second chip is on line 2, as a number. -/
def slaveCascade : UInt8 := 0x02
/-- 8086 mode. -/
def modeWord : UInt8 := 0x01
/-- Non-specific end of interrupt. -/
def endWord : UInt8 := 0x20

inductive Transfer where
  | write (port : Port) (value : UInt8)
  | read (port : Port)
  /-- The pause that old chips need between initialisation words. -/
  | delay
  deriving DecidableEq, Repr

inductive Command where
  | remap (masks : Masks)
  | setMasks (masks : Masks)
  | endOfInterrupt (line : UInt8)
  | maskLine (line : UInt8)
  | unmaskLine (line : UInt8)
  | disable
  | readMasks
  deriving DecidableEq, Repr

structure Driver where
  masks : Masks := Masks.allMasked
  remapped : Bool := false
  deriving DecidableEq, Repr, Inhabited

/-- The initialisation words, master and slave in turn. -/
def initWords : List ((Port × UInt8) × (Port × UInt8)) :=
  [((Port.pic1Command, initWord), (Port.pic2Command, initWord)),
    ((Port.pic1Data, masterVectorOffset), (Port.pic2Data, slaveVectorOffset)),
    ((Port.pic1Data, masterCascade), (Port.pic2Data, slaveCascade)),
    ((Port.pic1Data, modeWord), (Port.pic2Data, modeWord))]

def initialise : List Transfer :=
  initWords.flatMap fun w => [.write w.1.1 w.1.2, .delay, .write w.2.1 w.2.2, .delay]

def writeMasks (m : Masks) : List Transfer :=
  [.write Port.pic1Data m.master, .write Port.pic2Data m.slave]

/-- The second chip first when the interrupt came through it, the first one always. -/
def acknowledge (line : UInt8) : List Transfer :=
  (if line < linesPerChip then [] else [.write Port.pic2Command endWord])
    ++ [.write Port.pic1Command endWord]

namespace Driver

def newMasks (d : Driver) : Command → Option Masks
  | .remap m | .setMasks m => some m
  | .maskLine l => some (d.masks.mask l)
  | .unmaskLine l => some (d.masks.unmask l)
  | .disable => some Masks.allMasked
  | .endOfInterrupt _ | .readMasks => none

/-- A line that does not exist can be neither masked nor unmasked. -/
def check : Command → Except LineError Unit
  | .maskLine l | .unmaskLine l => checkLine l
  | _ => .ok ()

def transfers (d : Driver) : Command → List Transfer
  | .remap m => initialise ++ writeMasks m
  | .endOfInterrupt l => acknowledge l
  | .readMasks => [.read Port.pic1Data, .read Port.pic2Data]
  | c => ((d.newMasks c).map writeMasks).getD []

def next (d : Driver) (c : Command) : Driver where
  masks := (d.newMasks c).getD d.masks
  remapped := match c with
    | .remap _ => true
    | _ => d.remapped

end Driver

end InterruptCore.Pic

import InterruptCore.Descriptor.GateTable
import InterruptCore.Text.Digits

/-! The legacy IRQ lines: eight on the first interrupt controller, eight on the second,
which is wired to line 2 of the first. -/
namespace InterruptCore.Irq

inductive LineError where
  | outOfRange (line : UInt8)
  deriving DecidableEq, Repr

def LineError.message : LineError → String
  | outOfRange l => "IRQ line " ++ Text.decimal l.toNat ++ " out of range (0-15)"

def LineError.kind : LineError → String
  | outOfRange _ => "LineOutOfRange"

def LineError.inspect : LineError → String
  | outOfRange l => "LineOutOfRange(" ++ Text.decimal l.toNat ++ ")"

def linesPerChip : UInt8 := 8

/-- Line of the first controller that the second is wired to. -/
def cascadeLine : UInt8 := 2

def checkLine (line : UInt8) : Except LineError Unit :=
  if line.toNat < irqLines then .ok () else .error (.outOfRange line)

inductive Known where
  | timer
  | keyboard
  | cascade
  | com2
  | com1
  | lpt2
  | floppy
  | lpt1
  | rtc
  | mouse
  | fpu
  | primaryAta
  | secondaryAta
  deriving DecidableEq, Repr

def Known.line : Known → UInt8
  | timer => 0
  | keyboard => 1
  | cascade => 2
  | com2 => 3
  | com1 => 4
  | lpt2 => 5
  | floppy => 6
  | lpt1 => 7
  | rtc => 8
  | mouse => 12
  | fpu => 13
  | primaryAta => 14
  | secondaryAta => 15

def Known.vector (k : Known) : UInt8 := irqBaseVector + k.line

def Known.named : List (String × Known) :=
  [("Timer", timer), ("Keyboard", keyboard), ("Cascade", cascade), ("Com2", com2),
    ("Com1", com1), ("Lpt2", lpt2), ("Floppy", floppy), ("Lpt1", lpt1), ("Rtc", rtc),
    ("Mouse", mouse), ("Fpu", fpu), ("PrimaryAta", primaryAta),
    ("SecondaryAta", secondaryAta)]

end InterruptCore.Irq

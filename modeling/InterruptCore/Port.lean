import InterruptCore.Abort
import InterruptCore.Text.Digits

/-! Port addresses, and the last value written to each port. -/
namespace InterruptCore

structure Port where
  number : UInt16
  deriving DecidableEq, Repr, Inhabited

namespace Port

def com1 : Port := ⟨0x3f8⟩
def pitChannel0 : Port := ⟨0x40⟩
def pitCommand : Port := ⟨0x43⟩
def pic1Command : Port := ⟨0x20⟩
def pic1Data : Port := ⟨0x21⟩
def pic2Command : Port := ⟨0xa0⟩
def pic2Data : Port := ⟨0xa1⟩
/-- Diagnostic port; a write to it takes the time that an old controller needs. -/
def postDelay : Port := ⟨0x80⟩

def named : List (String × Port) :=
  [("COM1", com1), ("PIT_CHANNEL0", pitChannel0), ("PIT_COMMAND", pitCommand),
    ("PIC1_COMMAND", pic1Command), ("PIC1_DATA", pic1Data), ("PIC2_COMMAND", pic2Command),
    ("PIC2_DATA", pic2Data), ("POST_DELAY", postDelay)]

/-- Port addresses do not wrap. -/
def offset (p : Port) (distance : UInt16) : Except Abort Port :=
  if p.number.toNat + distance.toNat < 0x10000 then .ok ⟨p.number + distance⟩
  else .error .additionOverflow

def inspect (p : Port) : String :=
  "Port \x7b address: 0x" ++ Text.hexPadded 4 p.number.toNat ++ ", size: 1 \x7d"

end Port

/-- The last value written to each port that was written to. -/
structure Latches where
  entries : List (Port × UInt8) := []
  deriving DecidableEq, Repr, Inhabited

namespace Latches

def read (l : Latches) (p : Port) : UInt8 :=
  ((l.entries.find? (·.1 = p)).map (·.2)).getD 0

def write (l : Latches) (p : Port) (v : UInt8) : Latches :=
  ⟨(p, v) :: l.entries.filter (·.1 ≠ p)⟩

@[simp] theorem read_write_self (l : Latches) (p : Port) (v : UInt8) :
    (l.write p v).read p = v := by
  simp [read, write]

theorem read_write_of_ne (l : Latches) {p q : Port} (v : UInt8) (h : q ≠ p) :
    (l.write p v).read q = l.read q := by
  have hpq : ¬ p = q := fun e => h e.symm
  simp only [read, write, List.find?_cons, hpq, decide_false, List.find?_filter]
  congr 3
  funext e
  by_cases he : e.1 = q <;> simp [he, h]

end Latches

end InterruptCore

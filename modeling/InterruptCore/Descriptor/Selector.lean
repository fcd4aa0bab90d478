/-! Segment selectors: index above, then the table bit, then the requested privilege. -/
namespace InterruptCore

structure Selector where
  bits : UInt16
  deriving DecidableEq, Repr, Inhabited

namespace Selector

/-- An index of more than 13 bits loses its high bits, a privilege all but two. -/
def new (index : UInt16) (ldt : Bool) (rpl : UInt8) : Selector :=
  ⟨UInt16.ofNat (index.toNat * 8 + (if ldt then 4 else 0) + rpl.toNat % 4)⟩

def index (s : Selector) : UInt16 := UInt16.ofNat (s.bits.toNat / 8)

def isLdt (s : Selector) : Bool := s.bits.toNat.testBit 2

def rpl (s : Selector) : UInt8 := UInt8.ofNat (s.bits.toNat % 4)

def null : Selector := ⟨0⟩

def kernelCode : Selector := new 1 false 0

def kernelData : Selector := new 2 false 0

end Selector

end InterruptCore

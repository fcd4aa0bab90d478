import InterruptCore.Descriptor.GateTable

/-! What is known of the code that a trap interrupted: its registers, and the vector and
error words between them. The words lie in memory in the order of `Context.words`. -/
namespace InterruptCore

/-- General registers, in the order in which they lie in memory. -/
structure General where
  r15 : UInt64 := 0
  r14 : UInt64 := 0
  r13 : UInt64 := 0
  r12 : UInt64 := 0
  r11 : UInt64 := 0
  r10 : UInt64 := 0
  r9 : UInt64 := 0
  r8 : UInt64 := 0
  rbp : UInt64 := 0
  rdi : UInt64 := 0
  rsi : UInt64 := 0
  rdx : UInt64 := 0
  rcx : UInt64 := 0
  rbx : UInt64 := 0
  rax : UInt64 := 0
  deriving DecidableEq, Repr, Inhabited

/-- What the CPU itself pushes on entry. -/
structure Frame where
  rip : UInt64 := 0
  cs : UInt64 := 0
  rflags : UInt64 := 0
  rsp : UInt64 := 0
  ss : UInt64 := 0
  deriving DecidableEq, Repr, Inhabited

structure Registers where
  general : General := {}
  frame : Frame := {}
  deriving DecidableEq, Repr, Inhabited

structure Context where
  general : General := {}
  /-- A whole word, of which the low byte is the vector. -/
  vectorWord : UInt64 := 0
  errorCode : UInt64 := 0
  frame : Frame := {}
  deriving DecidableEq, Repr, Inhabited

def Frame.interruptFlag (f : Frame) : Bool := f.rflags.toNat.testBit 9

def General.words (g : General) : List UInt64 :=
  [g.r15, g.r14, g.r13, g.r12, g.r11, g.r10, g.r9, g.r8, g.rbp, g.rdi, g.rsi, g.rdx, g.rcx,
    g.rbx, g.rax]

def Frame.words (f : Frame) : List UInt64 := [f.rip, f.cs, f.rflags, f.rsp, f.ss]

namespace Context

def forVector (vector : UInt8) (errorCode : UInt64) : Context where
  vectorWord := vector.toUInt64
  errorCode := errorCode

def vector (c : Context) : UInt8 := UInt8.ofNat c.vectorWord.toNat

def isException (c : Context) : Bool := c.vector.toNat < exceptionVectors

def irqLine (c : Context) : Option UInt8 :=
  if irqBaseVector ≤ c.vector ∧ c.vector.toNat - irqBaseVector.toNat < irqLines then
    some (c.vector - irqBaseVector)
  else none

def registers (c : Context) : Registers := ⟨c.general, c.frame⟩

def words (c : Context) : List UInt64 :=
  c.general.words ++ [c.vectorWord, c.errorCode] ++ c.frame.words

/-- Reads a context from the words at its address. -/
def ofWords (ws : List UInt64) : Context :=
  let w := ws.getD
  ⟨⟨w 0 0, w 1 0, w 2 0, w 3 0, w 4 0, w 5 0, w 6 0, w 7 0, w 8 0, w 9 0, w 10 0, w 11 0,
    w 12 0, w 13 0, w 14 0⟩, w 15 0, w 16 0, ⟨w 17 0, w 18 0, w 19 0, w 20 0, w 21 0⟩⟩

theorem ofWords_words (c : Context) (rest : List UInt64) : ofWords (c.words ++ rest) = c := rfl

/-- Bytes of the general registers, which lie before the vector word. -/
def generalBytes : Nat := 8 * (General.words {}).length

def bytes : Nat := 8 * (words {}).length

end Context

end InterruptCore

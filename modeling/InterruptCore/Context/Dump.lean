import InterruptCore.Context
import InterruptCore.Exception
import InterruptCore.Text.Writer

/-! The text of all registers of a context, in the pieces in which it is written. -/
namespace InterruptCore.Context

open Text

def statusFlags : List (Nat × String) :=
  [(0, "CF"), (2, "PF"), (4, "AF"), (6, "ZF"), (7, "SF"), (8, "TF"), (9, "IF"), (10, "DF"),
    (11, "OF")]

def wide (w : UInt64) : List String := hexPieces 16 w.toNat

def codeRow (f : Frame) : List String :=
  ["RIP: 0x"] ++ wide f.rip ++ ["  CS: 0x"] ++ hexPieces 4 f.cs.toNat
    ++ ["  RFLAGS: 0x", hex f.rflags.toNat, "\n"]

def stackRow (f : Frame) : List String :=
  ["RSP: 0x"] ++ wide f.rsp ++ ["  SS: 0x"] ++ hexPieces 4 f.ss.toNat ++ ["\n"]

/-- Three registers to a line. -/
def row (a : String × UInt64) (b : String × UInt64) (c : String × UInt64) : List String :=
  [a.1 ++ ": 0x"] ++ wide a.2 ++ ["  " ++ b.1 ++ ": 0x"] ++ wide b.2
    ++ ["  " ++ c.1 ++ ": 0x"] ++ wide c.2 ++ ["\n"]

def flagPieces (rflags : UInt64) : List String :=
  statusFlags.flatMap fun f => if rflags.toNat.testBit f.1 then [" ", f.2] else []

def dump (c : Context) : List String :=
  ["=== INTERRUPT FRAME DUMP ===\n"]
    ++ ["Vector: ", decimal c.vectorWord.toNat, " (", Exception.name c.vector,
      ") Error Code: 0x", hex c.errorCode.toNat, "\n"]
    ++ codeRow c.frame ++ stackRow c.frame
    ++ row ("RAX", c.general.rax) ("RBX", c.general.rbx) ("RCX", c.general.rcx)
    ++ row ("RDX", c.general.rdx) ("RSI", c.general.rsi) ("RDI", c.general.rdi)
    ++ row ("RBP", c.general.rbp) ("R8 ", c.general.r8) ("R9 ", c.general.r9)
    ++ row ("R10", c.general.r10) ("R11", c.general.r11) ("R12", c.general.r12)
    ++ row ("R13", c.general.r13) ("R14", c.general.r14) ("R15", c.general.r15)
    ++ ["Flags:"] ++ flagPieces c.frame.rflags ++ ["\n"]
    ++ ["=== END INTERRUPT FRAME DUMP ===\n"]

def dumpTo {σ : Type} (c : Context) (o : Outlet σ) (s : σ) : σ × Bool := o.writeAll s c.dump

end InterruptCore.Context

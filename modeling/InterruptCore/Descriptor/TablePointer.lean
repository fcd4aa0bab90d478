import InterruptCore.Bytes
import InterruptCore.Descriptor.Error

/-! Operands of the instructions that load a descriptor table: a 16-bit limit, which is
the size of the table less one, and the address of the table. -/
namespace InterruptCore

structure TablePointer where
  limit : UInt16
  base : UInt64
  deriving DecidableEq, Repr, Inhabited

structure TablePointer32 where
  limit : UInt16
  base : UInt32
  deriving DecidableEq, Repr, Inhabited

def maxTableBytes : Nat := 0x10000

def tableLimit (size : UInt64) : Except DescriptorError UInt16 :=
  if size = 0 ∨ maxTableBytes < size.toNat then .error (.tableSizeOutOfRange size)
  else .ok (UInt16.ofNat (size.toNat - 1))

def TablePointer.new (base size : UInt64) : Except DescriptorError TablePointer :=
  (tableLimit size).map (⟨·, base⟩)

def TablePointer.bytes (p : TablePointer) : List UInt8 :=
  Bytes.ofNat 2 p.limit.toNat ++ Bytes.ofNat 8 p.base.toNat

def TablePointer32.new (base : UInt32) (size : UInt64) :
    Except DescriptorError TablePointer32 :=
  (tableLimit size).map (⟨·, base⟩)

def TablePointer32.bytes (p : TablePointer32) : List UInt8 :=
  Bytes.ofNat 2 p.limit.toNat ++ Bytes.ofNat 4 p.base.toNat

end InterruptCore

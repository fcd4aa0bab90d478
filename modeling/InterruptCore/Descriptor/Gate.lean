import InterruptCore.Bytes
import InterruptCore.Descriptor.Error
import InterruptCore.Descriptor.Segment
import InterruptCore.Descriptor.Selector

/-! Interrupt and trap gates, for long mode in 16 bytes and for protected mode in eight.
An encoded gate is a word; its bytes in memory are the little-endian bytes of the word. -/
namespace InterruptCore

inductive GateType where
  /-- Entry clears the interrupt flag. -/
  | interrupt
  /-- Entry leaves the interrupt flag alone. -/
  | trap
  deriving DecidableEq, Repr, Inhabited

namespace GateType

def bits : GateType → Nat
  | interrupt => 14
  | trap => 15

/-- Only the low four bits are looked at. -/
def ofBits (b : Nat) : Except DescriptorError GateType :=
  match b % 16 with
  | 14 => .ok interrupt
  | 15 => .ok trap
  | other => .error (.unknownGateType (UInt8.ofNat other))

def name : GateType → String
  | interrupt => "Interrupt"
  | trap => "Trap"

end GateType

/-- Type in bits 0 to 3, privilege in bits 5 and 6, presence in bit 7. -/
def gateAttributes (type : GateType) (dpl : UInt8) (present : Bool) : Nat :=
  type.bits + dpl.toNat <<< 5 + present.toNat <<< 7

structure Gate64 where
  offset : UInt64
  selector : Selector
  /-- Interrupt stack to switch to; zero for none. -/
  ist : UInt8
  type : GateType
  dpl : UInt8
  present : Bool
  deriving DecidableEq, Repr, Inhabited

namespace Gate64

abbrev Word := BitVec 128

def istMax : UInt8 := 7

def kernelInterrupt (offset : UInt64) : Gate64 :=
  ⟨offset, Selector.kernelCode, 0, .interrupt, 0, true⟩

def attributes (g : Gate64) : Nat := gateAttributes g.type g.dpl g.present

/-- Each field at its place in the word; the offset is in three parts. -/
def layout (g : Gate64) : Nat :=
  g.offset.toNat % 0x10000 + g.selector.bits.toNat <<< 16 + g.ist.toNat <<< 32
    + g.attributes <<< 40 + (g.offset.toNat >>> 16 % 0x10000) <<< 48
    + (g.offset.toNat >>> 32) <<< 64

def word (g : Gate64) : Word := BitVec.ofNat 128 g.layout

/-- The stack index is looked at before the privilege level. -/
def encode (g : Gate64) : Except DescriptorError Word :=
  if istMax < g.ist then .error (.istOutOfRange g.ist)
  else if SegmentDescriptor.privilegeMax < g.dpl then .error (.privilegeOutOfRange g.dpl)
  else .ok g.word

/-- The entry address in a word, whatever its other fields are. -/
def target (raw : Word) : UInt64 :=
  UInt64.ofNat (raw.toNat % 0x10000 + (raw.toNat >>> 48 % 0x10000) <<< 16
    + (raw.toNat >>> 64 % 0x100000000) <<< 32)

def decode (raw : Word) : Except DescriptorError Gate64 := do
  let w := raw.toNat
  let type ← GateType.ofBits (w >>> 40)
  return {
    offset := target raw
    selector := ⟨UInt16.ofNat (w >>> 16)⟩
    ist := UInt8.ofNat (w >>> 32 % 8)
    type := type
    dpl := UInt8.ofNat (w >>> 45 % 4)
    present := w.testBit 47 }

def isPresent (raw : Word) : Bool := raw.toNat.testBit 47

def bytes (raw : Word) : List UInt8 := Bytes.ofNat 16 raw.toNat

def ofBytes (bs : List UInt8) : Word := BitVec.ofNat 128 (Bytes.toNat bs)

end Gate64

structure Gate32 where
  offset : UInt32
  selector : Selector
  type : GateType
  dpl : UInt8
  present : Bool
  deriving DecidableEq, Repr, Inhabited

namespace Gate32

abbrev Word := BitVec 64

def kernelInterrupt (offset : UInt32) : Gate32 :=
  ⟨offset, Selector.kernelCode, .interrupt, 0, true⟩

def attributes (g : Gate32) : Nat := gateAttributes g.type g.dpl g.present

def layout (g : Gate32) : Nat :=
  g.offset.toNat % 0x10000 + g.selector.bits.toNat <<< 16 + g.attributes <<< 40
    + (g.offset.toNat >>> 16) <<< 48

def word (g : Gate32) : Word := BitVec.ofNat 64 g.layout

def encode (g : Gate32) : Except DescriptorError Word :=
  if SegmentDescriptor.privilegeMax < g.dpl then .error (.privilegeOutOfRange g.dpl)
  else .ok g.word

def decode (raw : Word) : Except DescriptorError Gate32 := do
  let w := raw.toNat
  let type ← GateType.ofBits (w >>> 40)
  return {
    offset := UInt32.ofNat (w % 0x10000 + (w >>> 48 % 0x10000) <<< 16)
    selector := ⟨UInt16.ofNat (w >>> 16)⟩
    type := type
    dpl := UInt8.ofNat (w >>> 45 % 4)
    present := w.testBit 47 }

def isPresent (raw : Word) : Bool := raw.toNat.testBit 47

def bytes (raw : Word) : List UInt8 := Bytes.ofNat 8 raw.toNat

def ofBytes (bs : List UInt8) : Word := BitVec.ofNat 64 (Bytes.toNat bs)

end Gate32

end InterruptCore

import InterruptCore.Abort
import InterruptCore.Bytes
import InterruptCore.Descriptor.Error
import InterruptCore.Text.Flags

/-! Segment descriptors and their eight-byte words. The privilege level is kept out of
the access byte, so that a level above three is an error and is not cut off. -/
namespace InterruptCore

structure SegmentDescriptor where
  base : UInt32
  /-- Counted in bytes, or in pages of 4 KiB when the granularity flag is set. -/
  limit : UInt32
  access : UInt8
  dpl : UInt8
  flags : UInt8
  deriving DecidableEq, Repr, Inhabited

namespace SegmentDescriptor

def limitMax : UInt32 := 0xfffff

def privilegeMax : UInt8 := 3

def accessNames : Text.FlagNames where
  title := "SegmentAccess"
  bits := [(0, "ACCESSED"), (1, "READ_WRITE"), (2, "DIRECTION_CONFORMING"), (3, "EXECUTABLE"),
    (4, "CODE_DATA"), (7, "PRESENT")]

def flagNames : Text.FlagNames where
  title := "SegmentFlags"
  bits := [(0, "AVAILABLE"), (1, "LONG_MODE"), (2, "DEFAULT_SIZE"), (3, "GRANULARITY")]

/-- A segment over the whole address space. -/
def flat (access dpl flags : UInt8) : SegmentDescriptor := ⟨0, limitMax, access, dpl, flags⟩

def null : SegmentDescriptor := ⟨0, 0, 0, 0, 0⟩

/-- Present, code or data, executable, readable; pages, long mode. -/
def kernelCode64 : SegmentDescriptor := flat 0x9a 0 0xa

def kernelCode32 : SegmentDescriptor := flat 0x9a 0 0xc

/-- Present, code or data, writable; pages, 32 bits. -/
def kernelData : SegmentDescriptor := flat 0x92 0 0xc

def attributes (s : SegmentDescriptor) : Nat :=
  s.access.toNat % 0x20 + s.dpl.toNat <<< 5 + (s.access.toNat >>> 7) <<< 7

/-- Each field at its place in the word; fields do not overlap. -/
def word (s : SegmentDescriptor) : Nat :=
  s.limit.toNat % 0x10000 + (s.base.toNat % 0x1000000) <<< 16 + s.attributes <<< 40
    + (s.limit.toNat >>> 16 % 0x10) <<< 48 + (s.flags.toNat % 0x10) <<< 52
    + (s.base.toNat >>> 24) <<< 56

/-- The privilege level is looked at before the limit. -/
def encode (s : SegmentDescriptor) : Except DescriptorError UInt64 :=
  if privilegeMax < s.dpl then .error (.privilegeOutOfRange s.dpl)
  else if limitMax < s.limit then .error (.limitOutOfRange s.limit)
  else .ok (UInt64.ofNat s.word)

/-- For descriptors of fixed tables, where a failure is a mistake of the table. -/
def encodeFixed (s : SegmentDescriptor) : Except Abort UInt64 :=
  match s.encode with
  | .ok raw => .ok raw
  | .error _ => .error .fixedDescriptor

def toBytes (s : SegmentDescriptor) : Except DescriptorError (List UInt8) :=
  s.encode.map fun raw => Bytes.ofNat 8 raw.toNat

def decode (raw : UInt64) : SegmentDescriptor where
  base := UInt32.ofNat (raw.toNat >>> 16 % 0x1000000 + (raw.toNat >>> 56) <<< 24)
  limit := UInt32.ofNat (raw.toNat % 0x10000 + (raw.toNat >>> 48 % 0x10) <<< 16)
  access := UInt8.ofNat (raw.toNat >>> 40 % 0x20 + (raw.toNat >>> 47 % 2) <<< 7)
  dpl := UInt8.ofNat (raw.toNat >>> 45 % 4)
  flags := UInt8.ofNat (raw.toNat >>> 52 % 0x10)

def ofBytes (bytes : List UInt8) : SegmentDescriptor :=
  decode (UInt64.ofNat (Bytes.toNat bytes))

def byteLimit (s : SegmentDescriptor) : UInt64 :=
  if s.flags.toNat.testBit 3 then UInt64.ofNat (s.limit.toNat * 4096 + 4095)
  else s.limit.toUInt64

def isCode (s : SegmentDescriptor) : Bool := s.access.toNat.testBit 3

end SegmentDescriptor

end InterruptCore

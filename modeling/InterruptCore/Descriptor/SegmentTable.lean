import InterruptCore.Descriptor.Segment

/-! The global descriptor table of the kernel: the null entry, then code and data, each at
the index that its selector names. -/
namespace InterruptCore.SegmentTable

def entries : List SegmentDescriptor :=
  [SegmentDescriptor.null, SegmentDescriptor.kernelCode64, SegmentDescriptor.kernelData]

def kernel : List UInt64 := entries.map fun s => UInt64.ofNat s.word

/-- Where the table stands in memory, which is for the linker to choose. -/
def address : UInt64 := 0xffffffff80200000

def size : UInt64 := 8 * UInt64.ofNat kernel.length

end InterruptCore.SegmentTable

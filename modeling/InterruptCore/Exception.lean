import InterruptCore.Descriptor.GateTable

/-! CPU exceptions: their names, and the error words that some of them push. -/
namespace InterruptCore.Exception

def names : List String :=
  ["Divide Error", "Debug", "Non-Maskable Interrupt", "Breakpoint", "Overflow",
    "Bound Range Exceeded", "Invalid Opcode", "Device Not Available", "Double Fault",
    "Coprocessor Segment Overrun", "Invalid TSS", "Segment Not Present",
    "Stack Segment Fault", "General Protection Fault", "Page Fault", "Reserved",
    "x87 FPU Error", "Alignment Check", "Machine Check", "SIMD Floating-Point Exception",
    "Virtualization Exception", "Control Protection Exception", "Reserved", "Reserved",
    "Reserved", "Reserved", "Reserved", "Reserved", "Hypervisor Injection Exception",
    "VMM Communication Exception", "Security Exception", "Reserved"]

def name (vector : UInt8) : String := names.getD vector.toNat "Unknown"

/-- The vectors that have a meaning of their own. -/
def defined : List UInt8 :=
  [0, 1, 2, 3, 4, 5, 6, 7, 8, 9, 10, 11, 12, 13, 14, 16, 17, 18, 19, 20, 21, 28, 29, 30]

def pageFault : UInt8 := 14

/-- Whether the CPU pushes an error word on this vector. -/
def hasErrorCode (vector : UInt8) : Bool :=
  [8, 10, 11, 12, 13, 14, 17, 21, 29, 30].contains vector

/-- The descriptor table that a selector error word points into. -/
inductive SelectorTable where
  | gdt
  | idt
  | ldt
  deriving DecidableEq, Repr

def SelectorTable.name : SelectorTable → String
  | gdt => "Gdt"
  | idt => "Idt"
  | ldt => "Ldt"

/-- The error word of vectors 10 to 13. -/
structure SelectorError where
  external : Bool
  /-- The two table bits as they stand: 0 for the GDT, 2 for the LDT, 1 and 3 for the IDT. -/
  table : UInt8
  index : UInt16
  deriving DecidableEq, Repr

def SelectorError.decode (raw : UInt64) : SelectorError where
  external := raw.toNat.testBit 0
  table := UInt8.ofNat (raw.toNat >>> 1 % 4)
  index := UInt16.ofNat (raw.toNat >>> 3 % 0x2000)

def SelectorError.tableKind (e : SelectorError) : SelectorTable :=
  match e.table with
  | 0 => .gdt
  | 2 => .ldt
  | _ => .idt

def pageFaultNames : Text.FlagNames where
  title := "PageFaultErrorCode"
  bits := [(0, "PROTECTION_VIOLATION"), (1, "CAUSED_BY_WRITE"), (2, "USER_MODE"),
    (3, "MALFORMED_TABLE"), (4, "INSTRUCTION_FETCH"), (5, "PROTECTION_KEY"),
    (6, "SHADOW_STACK")]

inductive ErrorDetail where
  | none
  | selector (e : SelectorError)
  /-- The named bits of a page fault's error word. -/
  | pageFault (bits : UInt64)
  deriving DecidableEq, Repr

/-- How the error word of a vector is read; bits that no name stands for are dropped from
the word of a page fault. -/
def ErrorDetail.of (vector : UInt8) (raw : UInt64) : ErrorDetail :=
  match vector with
  | 10 | 11 | 12 | 13 => .selector (SelectorError.decode raw)
  | 14 => .pageFault (raw &&& UInt64.ofNat pageFaultNames.known)
  | _ => .none

end InterruptCore.Exception
